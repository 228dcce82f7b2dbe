import FaultInjection.Document.Basic
import FaultInjection.Json.Basic

/-!
What settings are read from. A JSON document says of each leaf what it is. A leaf of another
document is what the setting asks for, as far as it can be: `5` is a text where a text belongs and
a number where a number does.
-/
namespace FaultInjection

class Source (τ : Type) where
  isNull : τ → Bool
  text? : τ → Option String
  whole? : τ → Option Int
  items? : τ → Option (List τ)
  members? : τ → Option (List (String × τ))
  json? : τ → Option Json
  shown : τ → Json

instance : Source Json where
  isNull
    | .null => true
    | _ => false
  text?
    | .str s => some s
    | _ => none
  whole?
    | .int n => some n
    | _ => none
  items?
    | .array items => some items
    | _ => none
  members?
    | .object members => some members
    | _ => none
  json? := some
  shown := id

namespace Document

def whole? (text : String) : Option Int :=
  match text.toList with
  | '-' :: ds => (Decimal.number? ds).map fun n => -(n : Int)
  | ds => (Decimal.number? ds).map fun n => (n : Int)

def fitsWord (n : Int) : Bool :=
  Int64.minValue.toInt ≤ n && n < UInt64.size

def fitsWide (n : Int) : Bool :=
  -170141183460469231731687303715884105728 ≤ n && n < 340282366920938463463374607431768211456

def decimal (text : String) : Json :=
  match Decimal.float? text.toList with
  | some x => if x.isFinite then .float x else .str text
  | none => .str text

/-- What a word says by itself. A whole number of more than 64 bits is refused, and one of more
than 128 bits is taken for a double. -/
def wordValue? (text : String) : Option Json :=
  match text with
  | "null" => some .null
  | "true" => some (.bool true)
  | "false" => some (.bool false)
  | text =>
    match whole? text with
    | some n =>
      if fitsWord n then some (.int n) else if fitsWide n then none else some (decimal text)
    | none => some (decimal text)

mutual

def json? : Document → Option Json
  | .word text => wordValue? text
  | .quoted text => some (.str text)
  | .array items => (itemValues? items).map .array
  | .object members => (memberValues? members).map fun ms => .object (Entries.ofPairs ms)

def itemValues? : List Document → Option (List Json)
  | [] => some []
  | d :: ds => do pure ((← json? d) :: (← itemValues? ds))

def memberValues? : List (String × Document) → Option (List (String × Json))
  | [] => some []
  | (k, d) :: ms => do pure ((k, ← json? d) :: (← memberValues? ms))

end

end Document

instance : Source Document where
  isNull
    | .word "null" => true
    | _ => false
  text?
    | .word text | .quoted text => some text
    | _ => none
  whole?
    | .word text => (Document.whole? text).filter Document.fitsWord
    | _ => none
  items?
    | .array items => some items
    | _ => none
  members?
    | .object members => some members
    | _ => none
  json? := Document.json?
  shown d := d.json?.getD .null

end FaultInjection
