import FaultInjection.Document.Reader
import FaultInjection.Json.Basic

namespace FaultInjection.Json

namespace Reader

open FaultInjection.Decimal (digit? takeDigits)

/-- The digits of a significand that are kept: the longest start of `ds`, read after `acc`, that
fits 64 bits, and how many digits are left. -/
def significand : Nat → List Char → Nat × Nat
  | acc, [] => (acc, 0)
  | acc, d :: ds =>
    let next := 10 * acc + (digit? d).getD 0
    if next < UInt64.size then significand next ds else (acc, (d :: ds).length)

/-- Scales a significand by powers of ten, each a double, with one rounding for each step.
The exponent may be so small that more than one step is needed. -/
def scale : Nat → Float → Int → Option Float
  | 0, x, _ => some x
  | fuel + 1, x, e =>
    if e.natAbs ≤ 308 then
      let power := Decimal.toFloat 1 e.natAbs
      if 0 ≤ e then
        let y := x * power
        if y.isInf then none else some y
      else some (x / power)
    else if x == 0.0 then some x
    else if 0 ≤ e then none
    else scale fuel (x / Decimal.toFloat 1 308) (e + 308)

def number? (negative : Bool) (whole fraction : List Char) (exponent : Option Int) :
    Option Json :=
  let sign (x : Float) := if negative then -x else x
  let (kept, dropped) := significand 0 whole
  match fraction, exponent with
  | [], none =>
    if dropped = 0 then
      if negative then
        if kept = 0 ∨ Int64.minValue.toInt.natAbs < kept then
          some (.float (sign kept.toUInt64.toFloat))
        else some (.int (-(kept : Int)))
      else some (.int kept)
    else (scale 8 kept.toUInt64.toFloat dropped).map (.float ∘ sign)
  | fraction, exponent =>
    let (kept, unused) := significand kept fraction
    let point : Int := dropped - (fraction.length - unused : Nat)
    let e := exponent.getD 0
    if kept = 0 then some (.float (sign 0.0))
    else if e < -2000000 then some (.float (sign 0.0))
    else (scale 8000 kept.toUInt64.toFloat (point + e)).map (.float ∘ sign)

def numeral? (s : List Char) : Option Json :=
  let (negative, s) := match s with
    | '-' :: s => (true, s)
    | s => (false, s)
  let (whole, r) := takeDigits s
  let (fraction, r) := match r with
    | '.' :: r => takeDigits r
    | r => ([], r)
  number? negative whole fraction (Decimal.exponent? (r.drop 1))

def word? (text : String) : Option Json :=
  match text with
  | "null" => some .null
  | "true" => some (.bool true)
  | "false" => some (.bool false)
  | text => numeral? text.toList

mutual

def ofDocument? : Document → Option Json
  | .word text => word? text
  | .quoted text => some (.str text)
  | .array items => (ofItems? items).map .array
  | .object members => (ofMembers? members).map fun ms => .object (Entries.ofPairs ms)

def ofItems? : List Document → Option (List Json)
  | [] => some []
  | d :: ds => do pure ((← ofDocument? d) :: (← ofItems? ds))

def ofMembers? : List (String × Document) → Option (List (String × Json))
  | [] => some []
  | (k, d) :: ms => do pure ((k, ← ofDocument? d) :: (← ofMembers? ms))

end

end Reader

def dialect : Document.Dialect where
  depth := 127
  surrogates := true
  raw c := 0x20 ≤ c.toNat

def parse? (s : String) : Option Json := do
  Reader.ofDocument? (← Document.parse? dialect s.toList)

end FaultInjection.Json
