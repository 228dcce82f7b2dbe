namespace FaultInjection

/-- What a double stands for: `mantissa * 2 ^ exponent` with a sign, unless it is special. -/
inductive Binary64
  | nan
  | infinite (negative : Bool)
  | finite (negative : Bool) (mantissa : Nat) (exponent : Int)
  deriving DecidableEq, Repr

namespace Binary64

def hiddenBit : Nat := 4503599627370496

def signBit : Nat := 9223372036854775808

def ofFloat (x : Float) : Binary64 :=
  let bits := x.toBits.toNat
  let negative := decide (signBit ≤ bits)
  let biased : Nat := bits / hiddenBit % 2048
  let fraction := bits % hiddenBit
  if biased = 2047 then
    if fraction = 0 then .infinite negative else .nan
  else if biased = 0 then .finite negative fraction (-1074)
  else .finite negative (fraction + hiddenBit) ((biased : Int) - 1075)

/-- Exact if the mantissa has at most 53 bits and the exponent is at least -1074. -/
def toFloat : Binary64 → Float
  | .nan => 0.0 / 0.0
  | .infinite negative => if negative then -1.0 / 0.0 else 1.0 / 0.0
  | .finite negative m e =>
    let sign := if negative then signBit else 0
    let shift := min (52 - m.log2) (e + 1074).toNat
    let m := m <<< shift
    let bits :=
      if m < hiddenBit then m else ((e - shift) + 1075).toNat * hiddenBit + (m - hiddenBit)
    Float.ofBits (sign + bits).toUInt64

def remainder (x y : Float) : Float :=
  match ofFloat x, ofFloat y with
  | .finite negative m e, .finite _ m' e' =>
    if m' = 0 then toFloat .nan
    else
      let low := min e e'
      toFloat (.finite negative ((m <<< (e - low).toNat) % (m' <<< (e' - low).toNat)) low)
  | .finite .., .infinite _ => x
  | _, _ => toFloat .nan

end Binary64
end FaultInjection
