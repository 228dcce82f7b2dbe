import FaultInjection.Decimal.Binary64
import FaultInjection.Expression.Error
import FaultInjection.Text.Bytes
import FaultInjection.Text.Case
import FaultInjection.Text.Quoted
import FaultInjection.Text.Space

namespace FaultInjection.Expression

namespace Operand

def expectString : Operand → Except Stop String
  | .str s => .ok s
  | a => fail (.expected (.kind .str) a)

def expectInt : Operand → Except Stop Int64
  | .int i => .ok i
  | a => fail (.expected (.kind .int) a)

def expectBool : Operand → Except Stop Bool
  | .bool b => .ok b
  | a => fail (.expected (.kind .bool) a)

def expectNumber : Operand → Except Stop Float
  | .int i => .ok i.toFloat
  | .float x => .ok x
  | a => fail (.expected .number a)

def expectTuple : Operand → Except Stop (List Operand)
  | .tuple items => .ok items
  | a => fail (.expected (.kind .tuple) a)

def expectPair (a : Operand) : Except Stop (Operand × Operand) := do
  match (← a.expectTuple) with
  | [x, y] => .ok (x, y)
  | _ => fail (.expected (.tupleOf 2) a)

end Operand

namespace Function

open Operand

def occursIn (t : List Char) : List Char → Bool
  | [] => t.isEmpty
  | c :: s => t.isPrefixOf (c :: s) || occursIn t s

def len : Operand → Except Stop Operand
  | .str s => .ok (.int (Int64.ofNat s.length))
  | .tuple items => .ok (.int (Int64.ofNat items.length))
  | a => fail (.lenOperand a)

def contains : Operand → Except Stop Operand
  | .tuple [.str s, .str t] => .ok (.bool (occursIn t.toList s.toList))
  | .tuple [.tuple items, x] => .ok (.bool (items.any (· == x)))
  | .tuple _ => fail .containsOperands
  | _ => fail .containsCount

def leastOf : Int64 × Float → List Operand → Except Stop (Int64 × Float)
  | acc, [] => .ok acc
  | (m, y), .float x :: as => leastOf (m, if x < y then x else y) as
  | (m, y), .int i :: as => leastOf (if i < m then i else m, y) as
  | _, a :: _ => fail (.expected .number a)

def greatestOf : Int64 × Float → List Operand → Except Stop (Int64 × Float)
  | acc, [] => .ok acc
  | (m, y), .float x :: as => greatestOf (m, if y < x then x else y) as
  | (m, y), .int i :: as => greatestOf (if m < i then i else m, y) as
  | _, a :: _ => fail (.expected .number a)

def least (a : Operand) : Except Stop Operand := do
  let (i, x) ← leastOf (Int64.maxValue, 1.0 / 0.0) (← a.expectTuple)
  pure (if i.toFloat < x then .int i else .float x)

def greatest (a : Operand) : Except Stop Operand := do
  let (i, x) ← greatestOf (Int64.minValue, -1.0 / 0.0) (← a.expectTuple)
  pure (if x < i.toFloat then .int i else .float x)

def choose (a : Operand) : Except Stop Operand := do
  match (← a.expectTuple) with
  | [c, x, y] =>
    let c ← c.expectBool
    pure (if c then x else y)
  | _ => fail (.expected (.tupleOf 3) a)

def kindName : Kind → String
  | .str => "string"
  | .float => "float"
  | .int => "int"
  | .bool => "boolean"
  | .tuple => "tuple"
  | .empty => "empty"

def anyAmong (items : List Operand) : Bool → List Operand → Except Stop Bool
  | found, [] => .ok found
  | found, x :: xs =>
    match x with
    | .tuple _ | .empty => fail (.expected .primitive x)
    | _ => anyAmong items (found || items.any (· == x)) xs

def containsAny (a : Operand) : Except Stop Operand := do
  let (x, y) ← a.expectPair
  let items ← x.expectTuple
  let candidates ← y.expectTuple
  pure (.bool (← anyAmong items false candidates))

def magnitude : Operand → Except Stop Operand
  | .float x => .ok (.float x.abs)
  | .int i => .ok (.int (if i < 0 then -i else i))
  | a => fail (.expected .number a)

/-- The length of the hypotenuse. Operands whose squares leave the range of doubles are scaled by
a power of two first. -/
def hypot (x y : Float) : Float :=
  let length (x y : Float) := Float.sqrt (x * x + y * y)
  let scaled (k : Float) := length (x * k) (y * k) / k
  let huge := Float.ofBits 0x6570000000000000
  let tiny := Float.ofBits 0x1A70000000000000
  if x.isInf || y.isInf then 1.0 / 0.0
  else if (x * x + y * y).isInf then scaled tiny
  else if x.abs < tiny && y.abs < tiny then scaled huge
  else length x y

def real? : String → Option (Float → Float)
  | "floor" => some Float.floor
  | "ceil" => some Float.ceil
  | "round" => some Float.round
  | "math::ln" => some Float.log
  | "math::log2" => some Float.log2
  | "math::log10" => some Float.log10
  | "math::exp" => some Float.exp
  | "math::exp2" => some Float.exp2
  | "math::cos" => some Float.cos
  | "math::acos" => some Float.acos
  | "math::cosh" => some Float.cosh
  | "math::acosh" => some Float.acosh
  | "math::sin" => some Float.sin
  | "math::asin" => some Float.asin
  | "math::sinh" => some Float.sinh
  | "math::asinh" => some Float.asinh
  | "math::tan" => some Float.tan
  | "math::atan" => some Float.atan
  | "math::tanh" => some Float.tanh
  | "math::atanh" => some Float.atanh
  | "math::sqrt" => some Float.sqrt
  | "math::cbrt" => some Float.cbrt
  | _ => none

def realPair? : String → Option (Float → Float → Float)
  | "math::log" => some fun x base => x.log / base.log
  | "math::pow" => some Float.pow
  | "math::atan2" => some Float.atan2
  | "math::hypot" => some hypot
  | _ => none

def isNormal (x : Float) : Bool :=
  match Binary64.ofFloat x with
  | .finite _ m _ => Binary64.hiddenBit ≤ m
  | _ => false

def realTest? : String → Option (Float → Bool)
  | "math::is_nan" => some Float.isNaN
  | "math::is_finite" => some Float.isFinite
  | "math::is_infinite" => some Float.isInf
  | "math::is_normal" => some isNormal
  | _ => none

def bitPair? : String → Option (Int64 → Int64 → Int64)
  | "bitand" => some (· &&& ·)
  | "bitor" => some (· ||| ·)
  | "bitxor" => some (· ^^^ ·)
  | "shl" => some (· <<< ·)
  | "shr" => some (· >>> ·)
  | _ => none

def textMap? : String → Option (String → String)
  | "str::to_lowercase" => some Text.lower
  | "str::to_uppercase" => some Text.upper
  | "str::trim" => some Text.trim
  | _ => none

def textOf : Operand → String
  | .str s => s
  | a => a.text

def splitChar? : (start n : Nat) → List Char → Option (Char × Nat)
  | _, _, [] => none
  | start, n, c :: s =>
    if n < start + c.utf8Size then some (c, start) else splitChar? (start + c.utf8Size) n s

def splitCrash (side : String) (s : String) (n : Nat) : Crash :=
  match splitChar? 0 n s.toList with
  | some (c, start) =>
    ⟨some (side ++ " byte index " ++ toString n ++ " is not a char boundary; it is inside '" ++
      String.ofList (Text.escapeChar c) ++ "' (bytes " ++ toString start ++ ".." ++
      toString (start + c.utf8Size) ++ " of string)")⟩
  | none => ⟨none⟩

def cut (s : String) (start stop : Nat) : Except Stop String :=
  match Text.dropBytes? start s.toList with
  | none => .error (.crash (splitCrash "start" s start))
  | some r =>
    match Text.takeBytes? (stop - start) r with
    | none => .error (.crash (splitCrash "end" s stop))
    | some r => .ok (String.ofList r)

def expectIndex (a : Operand) : Except Stop Nat := do
  let i ← a.expectInt
  if i < 0 then fail .outOfBounds else pure i.toInt.toNat

def cutWithin (s : String) (start stop : Nat) : Except Stop Operand :=
  if stop < start ∨ Text.byteSize s.toList < stop then fail .outOfBounds
  else (cut s start stop).map .str

def substring (a : Operand) : Except Stop Operand := do
  match (← a.expectTuple) with
  | [s, start] =>
    let s ← s.expectString
    cutWithin s (← expectIndex start) (Text.byteSize s.toList)
  | [s, start, stop] =>
    let s ← s.expectString
    let start ← expectIndex start
    cutWithin s start (← expectIndex stop)
  | _ => fail (.expected (.tupleBetween 2 3) a)

def family? (name : String) : Option (Operand → Except Stop Operand) :=
  match real? name, realPair? name, realTest? name, bitPair? name, textMap? name with
  | some f, _, _, _, _ => some fun a => do pure (.float (f (← a.expectNumber)))
  | _, some f, _, _, _ => some fun a => do
    let (x, y) ← a.expectPair
    let x ← x.expectNumber
    pure (.float (f x (← y.expectNumber)))
  | _, _, some f, _, _ => some fun a => do pure (.bool (f (← a.expectNumber)))
  | _, _, _, some f, _ => some fun a => do
    let (x, y) ← a.expectPair
    let x ← x.expectInt
    pure (.int (f x (← y.expectInt)))
  | _, _, _, _, some f => some fun a => do pure (.str (f (← a.expectString)))
  | _, _, _, _, _ => none

def named? : String → Option (Operand → Except Stop Operand)
  | "len" => some len
  | "contains" => some contains
  | "contains_any" => some containsAny
  | "min" => some least
  | "max" => some greatest
  | "if" => some choose
  | "typeof" => some fun a => .ok (.str (kindName a.kind))
  | "math::abs" => some magnitude
  | "bitnot" => some fun a => do pure (.int (~~~(← a.expectInt)))
  | "str::from" => some fun a => .ok (.str (textOf a))
  | "str::substring" => some substring
  | name => family? name

end Function
end FaultInjection.Expression
