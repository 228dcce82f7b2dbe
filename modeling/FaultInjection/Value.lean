import FaultInjection.Decimal.Layout
import FaultInjection.Dict

namespace FaultInjection

/-- A value of the host program. Two handles are the same value if they have one identity. -/
structure Foreign where
  identity : Nat
  kind : String
  text : String
  /-- What a host that knows the kind reads out of the value. -/
  payload : Option Int

/-- The entries of a `map` stand in key order. -/
inductive Value
  | null
  | bool (b : Bool)
  | int (i : Int64)
  | float (x : Float)
  | str (s : String)
  | list (items : List Value)
  | map (entries : List (String × Value))
  | foreign (f : Foreign)
  deriving Inhabited

namespace Value

def ofPairs (ps : List (String × Value)) : Value :=
  .map (Entries.ofPairs ps)

mutual

def beq : Value → Value → Bool
  | .null, .null => true
  | .bool a, .bool b => a == b
  | .int a, .int b => a == b
  | .float a, .float b => a == b
  | .str a, .str b => a == b
  | .list as, .list bs => beqItems as bs
  | .map as, .map bs => beqEntries as bs
  | .foreign a, .foreign b => a.identity == b.identity
  | _, _ => false

def beqItems : List Value → List Value → Bool
  | [], [] => true
  | a :: as, b :: bs => beq a b && beqItems as bs
  | _, _ => false

def beqEntries : List (String × Value) → List (String × Value) → Bool
  | [], [] => true
  | (k, a) :: as, (l, b) :: bs => k == l && beq a b && beqEntries as bs
  | _, _ => false

end

instance : BEq Value := ⟨beq⟩

def isNull : Value → Bool
  | .null => true
  | _ => false

def isMap : Value → Bool
  | .map _ => true
  | _ => false

def asStr? : Value → Option String
  | .str s => some s
  | _ => none

def asBool? : Value → Option Bool
  | .bool b => some b
  | _ => none

def asInt? : Value → Option Int64
  | .int i => some i
  | _ => none

def asFloat? : Value → Option Float
  | .int i => some ⟨Float.Model.ofInt64 i⟩
  | .float x => some x
  | _ => none

def asList? : Value → Option (List Value)
  | .list items => some items
  | _ => none

def asMap? : Value → Option (List (String × Value))
  | .map entries => some entries
  | _ => none

def asForeign? : Value → Option Foreign
  | .foreign f => some f
  | _ => none

def get? (v : Value) (key : String) : Option Value :=
  v.asMap?.bind (Entries.get? key)

def kind : Value → String
  | .null => "null"
  | .bool _ => "bool"
  | .int _ => "int"
  | .float _ => "float"
  | .str _ => "string"
  | .list _ => "list"
  | .map _ => "map"
  | .foreign f => f.kind

mutual

/-- The text form that conditions are matched on. Text stands as it is, without quotes. -/
def render : Value → String
  | .null => "null"
  | .bool b => if b then "true" else "false"
  | .int i => toString i.toInt
  | .float x => Decimal.plain.text x
  | .str s => s
  | .list items => "[" ++ renderItems items ++ "]"
  | .map entries => "\x7b" ++ renderEntries entries ++ "\x7d"
  | .foreign f => f.text

def renderItems : List Value → String
  | [] => ""
  | [v] => render v
  | v :: vs => render v ++ ", " ++ renderItems vs

def renderEntries : List (String × Value) → String
  | [] => ""
  | [(k, v)] => k ++ "=" ++ render v
  | (k, v) :: es => k ++ "=" ++ render v ++ ", " ++ renderEntries es

end

instance : ToString Value := ⟨render⟩

end Value
end FaultInjection
