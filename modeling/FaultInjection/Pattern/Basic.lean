import FaultInjection.Pattern.CharSet

namespace FaultInjection

inductive Anchor
  | textStart
  | textEnd
  | lineStart (crlf : Bool)
  | lineEnd (crlf : Bool)
  | boundary (ascii : Bool)
  | notBoundary (ascii : Bool)
  | wordStart (ascii : Bool)
  | wordEnd (ascii : Bool)
  | wordStartHalf (ascii : Bool)
  | wordEndHalf (ascii : Bool)
  deriving DecidableEq, Repr

inductive Pattern
  | empty
  | one (s : CharSet)
  | anchor (a : Anchor)
  | seq (p q : Pattern)
  | alt (p q : Pattern)
  | rep (p : Pattern) (least : Nat) (most : Option Nat)
  | group (p : Pattern)
  deriving Repr

namespace Anchor

def isWordIn (ascii : Bool) : Option Char → Bool
  | none => false
  | some c => if ascii then c.isAlphanum || c == '_' else Property.isWord c

def holds (a : Anchor) (before after : Option Char) : Bool :=
  match a with
  | .textStart => before.isNone
  | .textEnd => after.isNone
  | .lineStart false => before.isNone || before == some '\n'
  | .lineStart true =>
    before.isNone || before == some '\n' || (before == some '\r' && after != some '\n')
  | .lineEnd false => after.isNone || after == some '\n'
  | .lineEnd true =>
    after.isNone || after == some '\r' || (after == some '\n' && before != some '\r')
  | .boundary ascii => isWordIn ascii before != isWordIn ascii after
  | .notBoundary ascii => isWordIn ascii before == isWordIn ascii after
  | .wordStart ascii => !isWordIn ascii before && isWordIn ascii after
  | .wordEnd ascii => isWordIn ascii before && !isWordIn ascii after
  | .wordStartHalf ascii => !isWordIn ascii before
  | .wordEndHalf ascii => !isWordIn ascii after

end Anchor

namespace Pattern

def seqs : List Pattern → Pattern
  | [] => .empty
  | [p] => p
  | p :: ps => .seq p (seqs ps)

def alts : List Pattern → Pattern
  | [] => .one CharSet.none
  | [p] => p
  | p :: ps => .alt p (alts ps)

def charBefore (text : List Char) (i : Nat) : Option Char :=
  if i = 0 then none else text[i - 1]?

/-- `Matches text p i j` holds if `p` matches the part of `text` from position `i` to `j`. -/
inductive Matches (text : List Char) : Pattern → Nat → Nat → Prop
  | empty {i : Nat} (h : i ≤ text.length) : Matches text .empty i i
  | one {s : CharSet} {i : Nat} {c : Char} (h : text[i]? = some c) (hc : s.contains c = true) :
      Matches text (.one s) i (i + 1)
  | anchor {a : Anchor} {i : Nat} (h : i ≤ text.length)
      (ha : a.holds (charBefore text i) text[i]? = true) : Matches text (.anchor a) i i
  | seq {p q : Pattern} {i j k : Nat} (hp : Matches text p i j) (hq : Matches text q j k) :
      Matches text (.seq p q) i k
  | altLeft {p q : Pattern} {i j : Nat} (h : Matches text p i j) : Matches text (.alt p q) i j
  | altRight {p q : Pattern} {i j : Nat} (h : Matches text q i j) : Matches text (.alt p q) i j
  | repNone {p : Pattern} {most : Option Nat} {i : Nat} (h : i ≤ text.length) :
      Matches text (.rep p 0 most) i i
  | repMore {p : Pattern} {least : Nat} {most : Option Nat} {i j k : Nat} (hm : most ≠ some 0)
      (hp : Matches text p i j) (hr : Matches text (.rep p (least - 1) (most.map (· - 1))) j k) :
      Matches text (.rep p least most) i k
  | group {p : Pattern} {i j : Nat} (h : Matches text p i j) : Matches text (.group p) i j

end Pattern
end FaultInjection
