import FaultInjection.Expression.Eval

/-!
Variables of an expression. An argument is bound under `arg` and its index, and the entries of a
map under the name of the map, a dot and their key, at any depth.
-/
namespace FaultInjection.Expression

abbrev Bindings := Dict Value

namespace Bindings

def argumentsFrom : Nat → List Value → List (String × Value)
  | _, [] => []
  | i, v :: vs => ("arg" ++ toString i, v) :: argumentsFrom (i + 1) vs

def ofArguments (args : List Value) : Bindings :=
  Dict.ofList (argumentsFrom 0 args)

end Bindings

namespace Env

def set (env : Env) (name : String) (a : Operand) : Except Stop Env :=
  match env.get? name with
  | none => .ok (env.insert name a)
  | some b =>
    if b.kind = a.kind then .ok (env.insert name a) else fail (.expected (.kind b.kind) a)

mutual

def bind (env : Env) (name : String) : Value → Except Stop Env
  | .map entries => do
    let env ← bindEntries env name entries
    set env name (Operand.ofValue (.map entries))
  | .list items => set env name (Operand.ofValue (.list items))
  | .null => set env name .empty
  | .bool b => set env name (.bool b)
  | .int i => set env name (.int i)
  | .float x => set env name (.float x)
  | .str s => set env name (.str s)
  | .foreign f => set env name (.str f.text)

def bindEntries (env : Env) (name : String) : List (String × Value) → Except Stop Env
  | [] => .ok env
  | (key, v) :: es => do
    let env ← bind env (name ++ "." ++ key) v
    bindEntries env name es

end

def bindAll (env : Env) : List (String × Value) → Except Stop Env
  | [] => .ok env
  | (name, v) :: vs => do
    let env ← bind env name v
    bindAll env vs

end Env
end FaultInjection.Expression
