import FaultInjection.Expression.Function
import FaultInjection.Expression.Tree

namespace FaultInjection.Expression

abbrev Env := Dict Operand

namespace Operand

def fits (n : Int) : Bool :=
  Int64.minValue.toInt ≤ n && n ≤ Int64.maxValue.toInt

def calculate (op : Arithmetic) (exact : Int64 → Int64 → Except Stop Int)
    (real : Float → Float → Float) (a b : Operand) : Except Stop Operand := do
  let x ← a.expectNumber
  let y ← b.expectNumber
  match a, b with
  | .int i, .int j =>
    let n ← exact i j
    if fits n then pure (.int (Int64.ofInt n)) else fail (.overflow op i j)
  | _, _ => pure (.float (real x y))

def expectNumberOrString (a : Operand) : Except Stop Unit :=
  match a with
  | .int _ | .float _ | .str _ => .ok ()
  | a => fail (.expected .numberOrString a)

def sum (a b : Operand) : Except Stop Operand := do
  a.expectNumberOrString
  b.expectNumberOrString
  match a, b with
  | .str s, .str t => pure (.str (s ++ t))
  | .str _, b => fail (.mixedSum .str b.kind)
  | a, .str _ => fail (.mixedSum a.kind .str)
  | a, b => calculate .add (fun i j => .ok (i.toInt + j.toInt)) (· + ·) a b

/-- Division toward zero; `remainder` asks for what is left over. The remainder is refused where
the quotient does not fit. -/
def quotient (op : Arithmetic) (remainder : Bool) (i j : Int64) : Except Stop Int :=
  if j = 0 then .error (.error .divisionByZero)
  else
    let q := i.toInt.tdiv j.toInt
    if fits q then .ok (if remainder then i.toInt.tmod j.toInt else q) else fail (.overflow op i j)

def negate (a : Operand) : Except Stop Operand := do
  let x ← a.expectNumber
  match a with
  | .int i => if fits (-i.toInt) then pure (.int (-i)) else fail (.negateOverflow i)
  | _ => pure (.float (-x))

def compare (onStrings : String → String → Bool) (onInts : Int64 → Int64 → Bool)
    (onFloats : Float → Float → Bool) (a b : Operand) : Except Stop Operand := do
  a.expectNumberOrString
  b.expectNumberOrString
  match a, b with
  | .str s, .str t => pure (.bool (onStrings s t))
  | .int i, .int j => pure (.bool (onInts i j))
  | a, b =>
    let x ← a.expectNumber
    pure (.bool (onFloats x (← b.expectNumber)))

def both (f : Bool → Bool → Bool) (a b : Operand) : Except Stop Operand := do
  let p ← a.expectBool
  pure (.bool (f p (← b.expectBool)))

end Operand

namespace Operator

open Operand

def binary? : Operator → Option (Operand → Operand → Except Stop Operand)
  | .add => some sum
  | .sub => some (calculate .sub (fun i j => .ok (i.toInt - j.toInt)) (· - ·))
  | .mul => some (calculate .mul (fun i j => .ok (i.toInt * j.toInt)) (· * ·))
  | .div => some (calculate .div (quotient .div false) (· / ·))
  | .mod => some (calculate .mod (quotient .mod true) Binary64.remainder)
  | .exp => some fun a b => do
    let x ← a.expectNumber
    pure (.float (x.pow (← b.expectNumber)))
  | .eq => some fun a b => .ok (.bool (a == b))
  | .neq => some fun a b => .ok (.bool (!(a == b)))
  | .lt => some (compare (fun s t => s < t) (fun i j => i < j) (fun x y => x < y))
  | .leq => some (compare (fun s t => s ≤ t) (fun i j => i ≤ j) (fun x y => x ≤ y))
  | .gt => some (compare (fun s t => t < s) (fun i j => j < i) (fun x y => y < x))
  | .geq => some (compare (fun s t => t ≤ s) (fun i j => j ≤ i) (fun x y => y ≤ x))
  | .and => some (both (· && ·))
  | .or => some (both (· || ·))
  | _ => none

def call (name : String) (a : Operand) : Except Stop Operand :=
  match Function.named? name with
  | some f => f a
  | none => fail (.unknownFunction name)

def unary? : Operator → Option (Operand → Except Stop Operand)
  | .neg => some negate
  | .not => some fun a => do pure (.bool (!(← a.expectBool)))
  | .function name => some (call name)
  | _ => none

def apply (env : Env) (o : Operator) (args : List Operand) : Except Stop Operand :=
  match o.binary?, o.unary? with
  | some f, _ =>
    match args with
    | [a, b] => f a b
    | _ => fail (.argumentCount 2 args.length)
  | none, some f =>
    match args with
    | [a] => f a
    | _ => fail (.argumentCount 1 args.length)
  | none, none =>
    match o with
    | .root => .ok (args.head?.getD .empty)
    | .tuple => .ok (.tuple args)
    | .chain =>
      match args.getLast? with
      | some a => .ok a
      | none => fail (.argumentCount 1 0)
    | .const a => .ok a
    | .write name => .ok (.str name)
    | .read name =>
      match env.get? name with
      | some a => .ok a
      | none => .error (.error (.unknownVariable name))
    | _ => fail .assignment

end Operator

namespace Tree

mutual

def eval (env : Env) : Tree → Except Stop Operand
  | .node o ts => do o.apply env (← evalAll env ts)

def evalAll (env : Env) : List Tree → Except Stop (List Operand)
  | [] => .ok []
  | t :: ts => do
    let a ← eval env t
    pure (a :: (← evalAll env ts))

end

end Tree
end FaultInjection.Expression
