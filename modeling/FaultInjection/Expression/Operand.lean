import FaultInjection.Text.Quoted
import FaultInjection.Value

namespace FaultInjection.Expression

inductive Operand
  | str (s : String)
  | float (x : Float)
  | int (i : Int64)
  | bool (b : Bool)
  | tuple (items : List Operand)
  | empty
  deriving Inhabited

inductive Kind
  | str | float | int | bool | tuple | empty
  deriving DecidableEq, Repr

def Kind.name : Kind → String
  | .str => "String"
  | .float => "Float"
  | .int => "Int"
  | .bool => "Boolean"
  | .tuple => "Tuple"
  | .empty => "Empty"

namespace Operand

def kind : Operand → Kind
  | .str _ => .str
  | .float _ => .float
  | .int _ => .int
  | .bool _ => .bool
  | .tuple _ => .tuple
  | .empty => .empty

mutual

def beq : Operand → Operand → Bool
  | .str a, .str b => a == b
  | .float a, .float b => a == b
  | .int a, .int b => a == b
  | .bool a, .bool b => a == b
  | .tuple as, .tuple bs => beqItems as bs
  | .empty, .empty => true
  | _, _ => false

def beqItems : List Operand → List Operand → Bool
  | [], [] => true
  | a :: as, b :: bs => beq a b && beqItems as bs
  | _, _ => false

end

instance : BEq Operand := ⟨beq⟩

mutual

def text : Operand → String
  | .str s => "\"" ++ s ++ "\""
  | .float x => Decimal.plain.text x
  | .int i => toString i.toInt
  | .bool b => if b then "true" else "false"
  | .tuple items => "(" ++ textItems items ++ ")"
  | .empty => "()"

def textItems : List Operand → String
  | [] => ""
  | [a] => text a
  | a :: as => text a ++ ", " ++ textItems as

end

mutual

def detail : Operand → String
  | .str s => "String(" ++ Text.quoted s ++ ")"
  | .float x => "Float(" ++ Decimal.detailed.text x ++ ")"
  | .int i => "Int(" ++ toString i.toInt ++ ")"
  | .bool b => "Boolean(" ++ (if b then "true" else "false") ++ ")"
  | .tuple items => "Tuple([" ++ detailItems items ++ "])"
  | .empty => "Empty"

def detailItems : List Operand → String
  | [] => ""
  | [a] => detail a
  | a :: as => detail a ++ ", " ++ detailItems as

end

mutual

def ofValue : Value → Operand
  | .null => .empty
  | .bool b => .bool b
  | .int i => .int i
  | .float x => .float x
  | .str s => .str s
  | .list items => .tuple (ofItems items)
  | .map entries => .tuple (entries.map fun e => .str e.1)
  | .foreign f => .str f.text

def ofItems : List Value → List Operand
  | [] => []
  | v :: vs => ofValue v :: ofItems vs

end

mutual

def toValue : Operand → Value
  | .str s => .str s
  | .float x => .float x
  | .int i => .int i
  | .bool b => .bool b
  | .tuple items => .list (toItems items)
  | .empty => .null

def toItems : List Operand → List Value
  | [] => []
  | a :: as => toValue a :: toItems as

end

end Operand
end FaultInjection.Expression
