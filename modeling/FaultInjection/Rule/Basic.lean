import FaultInjection.Rule.Key
import FaultInjection.Value

namespace FaultInjection

/-- A rule without conditions applies to every call of its target, one with an empty set of
conditions to none. -/
structure Rule where
  id : Option String := none
  target : String
  action : String
  conditions : Option (Dict Value) := none
  expression : Option String := none
  flags : Dict String := Dict.empty
  deriving Inhabited

namespace Rule

def withCondition (r : Rule) (key : String) (expected : Value) : Rule :=
  { r with conditions := some ((r.conditions.getD Dict.empty).insert key expected) }

def withEmptyConditions (r : Rule) : Rule :=
  { r with conditions := some (r.conditions.getD Dict.empty) }

def withFlag (r : Rule) (name value : String) : Rule :=
  { r with flags := r.flags.insert name value }

def entries (r : Rule) : List (String × Value) :=
  match r.conditions with
  | some d => d.entries
  | none => []

def condition? (r : Rule) (reserved : String) : Option Value :=
  (r.entries.find? fun e => Key.names e.1 reserved).map (·.2)

def expressionText? (r : Rule) : Option String :=
  match r.expression with
  | some e => some e
  | none => (r.condition? Key.paramExp).map Value.render

def attributes (r : Rule) : List (String × String) :=
  r.entries.map (fun e => (e.1, e.2.render)) ++ r.flags.entries

def joinAttributes : List (String × String) → String
  | [] => ""
  | (k, v) :: es => "|" ++ k ++ "=" ++ v ++ joinAttributes es

def identifier (r : Rule) : String :=
  r.target ++ "|" ++ r.action ++ joinAttributes r.attributes

def describe (r : Rule) : String :=
  match r.id with
  | some id => id ++ " (" ++ r.identifier ++ ")"
  | none => r.identifier

def answersTo (r : Rule) (key : String) : Bool :=
  match r.id with
  | some id => id == key
  | none => r.identifier == key

def beqConditions : Option (Dict Value) → Option (Dict Value) → Bool
  | none, none => true
  | some d, some e => Value.beqEntries d.entries e.entries
  | _, _ => false

instance : BEq Rule where
  beq r s := r.id == s.id && r.target == s.target && r.action == s.action &&
    beqConditions r.conditions s.conditions && r.expression == s.expression &&
    r.flags.entries == s.flags.entries

end Rule
end FaultInjection
