namespace FaultInjection.Text

structure Range where
  lo : Nat
  hi : Nat
  deriving DecidableEq, Repr

abbrev Ranges := Array Range

def hexDigit? (c : Char) : Option Nat :=
  if '0' ≤ c ∧ c ≤ '9' then some (c.toNat - 48)
  else if 'a' ≤ c ∧ c ≤ 'f' then some (c.toNat - 87)
  else if 'A' ≤ c ∧ c ≤ 'F' then some (c.toNat - 55)
  else none

def hexNumber? : List Char → Option Nat
  | [] => none
  | cs => cs.foldl (fun n c => do pure (16 * (← n) + (← hexDigit? c))) (some 0)

namespace Ranges

def addWord (rs : Ranges) (word : List Char) : Ranges :=
  let (first, rest) := word.span (· ≠ '-')
  match hexNumber? first, hexNumber? (rest.drop 1) with
  | some lo, some hi => rs.push ⟨lo, hi⟩
  | some lo, none => rs.push ⟨lo, lo⟩
  | none, _ => rs

def ofText (s : String) : Ranges :=
  let (rs, word) := s.toList.foldl
    (fun (rs, word) c =>
      if c = ' ' ∨ c = '\n' then (addWord rs word.reverse, []) else (rs, c :: word))
    ((#[], []) : Ranges × List Char)
  addWord rs word.reverse

def contains (rs : Ranges) (n : Nat) : Bool :=
  rs.any fun r => r.lo ≤ n && n ≤ r.hi

def everything : Ranges := #[⟨0, 0x10FFFF⟩]

def extend (r : Range) : List Range → List Range
  | [] => [r]
  | last :: before =>
    if r.lo ≤ last.hi + 1 then ⟨last.lo, max last.hi r.hi⟩ :: before else r :: last :: before

def normalize (rs : Ranges) : Ranges :=
  let sorted := (rs.toList.filter fun r => r.lo ≤ r.hi).mergeSort fun a b => a.lo ≤ b.lo
  (sorted.foldl (fun acc r => extend r acc) []).reverse.toArray

def gaps (next : Nat) : List Range → List Range
  | [] => if next ≤ 0x10FFFF then [⟨next, 0x10FFFF⟩] else []
  | r :: rs => if next < r.lo then ⟨next, r.lo - 1⟩ :: gaps (r.hi + 1) rs else gaps (r.hi + 1) rs

def complement (rs : Ranges) : Ranges :=
  (gaps 0 rs.normalize.toList).toArray

def meet (rs ts : Ranges) : Ranges :=
  complement (complement rs ++ complement ts)

def minus (rs ts : Ranges) : Ranges :=
  complement (complement rs ++ ts)

end Ranges
end FaultInjection.Text
