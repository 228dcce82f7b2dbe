import FaultInjection.Decimal.Binary64

/-!
The shortest decimal that reads back as a given double.

`m * 2 ^ q` is the double nearest to every real of an interval around it, ends included if `m` is
even. Of the decimal grids that have a point in the interval the coarsest is taken, and on it the
point nearest to the double.
-/
namespace FaultInjection.Decimal

structure Scaled where
  digits : Nat
  exponent : Int
  deriving DecidableEq, Repr

structure Interval where
  low : Nat
  mid : Nat
  high : Nat
  closed : Bool

def interval (m : Nat) (q : Int) : Interval :=
  let low := if m = Binary64.hiddenBit ∧ -1074 < q then 4 * m - 1 else 4 * m - 2
  ⟨low, 4 * m, 4 * m + 2, m % 2 = 0⟩

/-- Points of the grid of exponent `p` are multiples of `step`, and the interval is scaled by
`unit`, so that both are whole numbers. -/
def gridStep (p q : Int) : Nat × Nat :=
  let two := q - 2
  (Nat.pow 10 p.toNat <<< (-two).toNat, Nat.pow 10 (-p).toNat <<< two.toNat)

def Interval.contains (i : Interval) (unit x : Nat) : Bool :=
  if i.closed then i.low * unit ≤ x && x ≤ i.high * unit
  else i.low * unit < x && x < i.high * unit

inductive Tie
  | away
  | even
  deriving DecidableEq, Repr

def Tie.keeps : Tie → Nat → Bool
  | .away, _ => false
  | .even, d => d % 2 = 0

def nearest? (tie : Tie) (i : Interval) (p q : Int) : Option Nat :=
  let (step, unit) := gridStep p q
  let mid := i.mid * unit
  let d := mid / step
  let below := 0 < d && i.contains unit (d * step)
  let above := i.contains unit ((d + 1) * step)
  if below && above then
    let (left, right) := (mid - d * step, (d + 1) * step - mid)
    some (if left < right || (left = right && tie.keeps d) then d else d + 1)
  else if below then some d
  else if above then some (d + 1)
  else none

def descend (tie : Tie) (i : Interval) (q : Int) : Nat → Int → Scaled
  | 0, p => ⟨0, p⟩
  | fuel + 1, p =>
    match nearest? tie i p q with
    | some d => ⟨d, p⟩
    | none => descend tie i q fuel (p - 1)

/-- The shortest decimal of `m * 2 ^ q`. The first grid tried is coarser than the double, and
seventeen digits always suffice. -/
def shortest (tie : Tie) (m : Nat) (q : Int) : Scaled :=
  let magnitude := (q + m.log2) * 30103 / 100000
  descend tie (interval m q) q 24 (magnitude + 2)

end FaultInjection.Decimal
