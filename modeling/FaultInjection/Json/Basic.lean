import FaultInjection.Decimal.Reader
import FaultInjection.Value

/-!
JSON documents. A whole number keeps its digits; a number with a fraction or an exponent, or too
large for 64 bits, is a double. The members of an object stand in key order.
-/
namespace FaultInjection

inductive Json
  | null
  | bool (b : Bool)
  | int (n : Int)
  | float (x : Float)
  | str (s : String)
  | array (items : List Json)
  | object (members : List (String × Json))
  deriving Inhabited

namespace Json

mutual

def toValue : Json → Value
  | .null => .null
  | .bool b => .bool b
  | .int n =>
    if Int64.minValue.toInt ≤ n ∧ n ≤ Int64.maxValue.toInt then .int (Int64.ofInt n)
    else .float (Decimal.wholeFloat n)
  | .float x => .float x
  | .str s => .str s
  | .array items => .list (itemValues items)
  | .object members => .map (memberValues members)

def itemValues : List Json → List Value
  | [] => []
  | j :: js => toValue j :: itemValues js

def memberValues : List (String × Json) → List (String × Value)
  | [] => []
  | (k, j) :: ms => (k, toValue j) :: memberValues ms

end

def get? (key : String) : Json → Option Json
  | .object members => Entries.get? key members
  | _ => none

end Json
end FaultInjection
