import FaultInjection.Config.Source
import FaultInjection.Decimal.Layout
import FaultInjection.Text.Quoted

/-!
Reading settings out of documents. A record is an object with its fields as members, of which
others are ignored, or an array of its fields in their order.
-/
namespace FaultInjection

inductive ShapeError
  | wrongType (found : Json) (expected : String)
  | wrongValue (n : Int) (expected : String)
  | missingField (name : String)
  | duplicateField (name : String)
  | tooFew (length : Nat) (record : String) (fields : Nat)
  | tooMany (length : Nat)

namespace Json

def description : Json → String
  | .null => "null"
  | .bool b => "boolean \x60" ++ (if b then "true" else "false") ++ "\x60"
  | .int n => "integer \x60" ++ toString n ++ "\x60"
  | .float x => "floating point \x60" ++ Decimal.compact.text x ++ "\x60"
  | .str s => "string " ++ Text.quoted s
  | .array _ => "sequence"
  | .object _ => "map"

end Json

def ShapeError.message : ShapeError → String
  | .wrongType found expected =>
    "invalid type: " ++ found.description ++ ", expected " ++ expected
  | .wrongValue n expected =>
    "invalid value: " ++ (Json.int n).description ++ ", expected " ++ expected
  | .missingField name => "missing field \x60" ++ name ++ "\x60"
  | .duplicateField name => "duplicate field \x60" ++ name ++ "\x60"
  | .tooFew length record fields =>
    "invalid length " ++ toString length ++ ", expected struct " ++ record ++ " with " ++
      toString fields ++ (if fields = 1 then " element" else " elements")
  | .tooMany length =>
    "invalid length " ++ toString length ++ ", expected fewer elements in array"

namespace Shape

abbrev Reader (τ α : Type) := τ → Except ShapeError α

variable {τ α : Type} [Source τ]

def wrongType (found : τ) (expected : String) : Except ShapeError α :=
  .error (.wrongType (Source.shown found) expected)

def any : Reader τ Json := fun d =>
  match Source.json? d with
  | some j => .ok j
  | none => wrongType d "any value"

def text : Reader τ String := fun d =>
  match Source.text? d with
  | some s => .ok s
  | none => wrongType d "a string"

def natural (type : String) : Reader τ Nat := fun d =>
  match Source.whole? d with
  | some n => if 0 ≤ n then .ok n.toNat else .error (.wrongValue n type)
  | none => wrongType d type

def nullable (read : Reader τ α) : Reader τ (Option α) := fun d =>
  if Source.isNull d then .ok none else (read d).map some

def list (read : Reader τ α) : Reader τ (List α) := fun d =>
  match Source.items? d with
  | some items => items.mapM read
  | none => wrongType d "a sequence"

def entries (read : Reader τ α) : List (String × τ) → Except ShapeError (List (String × α))
  | [] => .ok []
  | (k, d) :: ms => do
    let v ← read d
    pure ((k, v) :: (← entries read ms))

def dict (read : Reader τ α) : Reader τ (Dict α) := fun d =>
  match Source.members? d with
  | some members => (entries read members).map Dict.ofList
  | none => wrongType d "a map"

structure Field (τ : Type) where
  name : String
  required : Bool
  check : Reader τ Unit

def required (name : String) (read : Reader τ α) : Field τ :=
  ⟨name, true, fun d => (read d).map fun _ => ()⟩

def optional (name : String) (read : Reader τ α) : Field τ :=
  ⟨name, false, fun d => (read d).map fun _ => ()⟩

def checkMembers (fields : List (Field τ)) : List (String × τ) → Except ShapeError Unit
  | [] => .ok ()
  | (k, d) :: ms => do
    match fields.find? (·.name == k) with
    | some f =>
      f.check d
      if (Entries.get? k ms).isSome then throw (.duplicateField k)
    | none => pure ()
    checkMembers fields ms

def checkPresent (members : List (String × τ)) : List (Field τ) → Except ShapeError Unit
  | [] => .ok ()
  | f :: fs =>
    if f.required && (Entries.get? f.name members).isNone then .error (.missingField f.name)
    else checkPresent members fs

/-- Gives the fields the items of an array; `read` says how many have been given one. -/
def assign (record : String) (all read : Nat) :
    List (Field τ) → List τ → Except ShapeError (List (String × τ))
  | [], _ => .ok []
  | f :: fs, [] =>
    if f.required then .error (.tooFew read record all) else assign record all (read + 1) fs []
  | f :: fs, d :: ds => do
    f.check d
    pure ((f.name, d) :: (← assign record all (read + 1) fs ds))

def record (name : String) (fields : List (Field τ)) : Reader τ (List (String × τ)) := fun d =>
  match Source.members? d, Source.items? d with
  | some members, _ => do
    checkMembers fields members
    checkPresent members fields
    pure members
  | none, some items => do
    let members ← assign name fields.length 0 fields items
    if fields.length < items.length then .error (.tooMany items.length) else pure members
  | none, none => wrongType d ("struct " ++ name)

def get (members : List (String × τ)) (name : String) (read : Reader τ α) (default : α) :
    Except ShapeError α :=
  match Entries.get? name members with
  | some d => read d
  | none => .ok default

def need (members : List (String × τ)) (name : String) (read : Reader τ α) :
    Except ShapeError α :=
  match Entries.get? name members with
  | some d => read d
  | none => .error (.missingField name)

end Shape
end FaultInjection
