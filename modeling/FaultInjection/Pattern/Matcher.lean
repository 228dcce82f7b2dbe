import FaultInjection.Pattern.Basic

namespace FaultInjection.Pattern

namespace Positions

def minus (xs ys : List Nat) : List Nat :=
  xs.filter fun x => !ys.contains x

def union (xs ys : List Nat) : List Nat :=
  xs ++ minus ys xs

def times (f : List Nat → List Nat) : Nat → List Nat → List Nat
  | 0, xs => xs
  | n + 1, xs => if xs.isEmpty then [] else times f n (f xs)

def upTo (f : List Nat → List Nat) : Nat → (seen fresh : List Nat) → List Nat
  | 0, seen, _ => seen
  | n + 1, seen, fresh =>
    if fresh.isEmpty then seen
    else
      let next := minus (f fresh) seen
      upTo f n (seen ++ next) next

theorem mem_minus {xs ys : List Nat} {i : Nat} : i ∈ minus xs ys ↔ i ∈ xs ∧ i ∉ ys := by
  simp [minus]

theorem mem_union {xs ys : List Nat} {i : Nat} : i ∈ union xs ys ↔ i ∈ xs ∨ i ∈ ys := by
  rw [union, List.mem_append, mem_minus]
  by_cases h : i ∈ xs <;> simp [h]

end Positions

open Positions

/-- Where matches of the pattern end that start at one of the given positions. Without a bound it
is enough to repeat as often as there are positions. -/
def ends (text : Array Char) : Pattern → List Nat → List Nat
  | .empty, is => is
  | .one s, is => (is.filter fun i => text[i]?.any s.contains).map (· + 1)
  | .anchor a, is =>
    is.filter fun i => a.holds (if i = 0 then none else text[i - 1]?) text[i]?
  | .seq p q, is => q.ends text (p.ends text is)
  | .alt p q, is => union (p.ends text is) (q.ends text is)
  | .rep p least most, is =>
    let is := times (p.ends text) least is
    upTo (p.ends text)
      (match most with
      | some m => m - least
      | none => text.size + 1)
      is is
  | .group p, is => p.ends text is

def isMatch (p : Pattern) (text : String) : Bool :=
  !(p.ends text.toList.toArray (List.range (text.length + 1))).isEmpty

end FaultInjection.Pattern
