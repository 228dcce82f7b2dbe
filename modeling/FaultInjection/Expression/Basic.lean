import FaultInjection.Expression.Binding

namespace FaultInjection

structure Expression where
  source : String
  tree : Expression.Tree

namespace Expression

def maxLength : Nat := 4096

def maxDepth : Nat := 64

def compile (source : String) : Except ExpressionError Expression :=
  let length := Text.byteSize source.toList
  if maxLength < length then .error (.tooLong length maxLength)
  else
    match Tree.parse source with
    | .error e => .error (.malformed e)
    | .ok tree =>
      if maxDepth < tree.depth then .error (.tooDeep tree.depth maxDepth)
      else .ok ⟨source, tree⟩

def executeIn (e : Expression) (vars : List (String × Value)) : Except Stop Value := do
  let env ← Env.bindAll Dict.empty vars
  pure (← e.tree.eval env).toValue

def execute (e : Expression) (vars : Bindings) : Except Stop Value :=
  e.executeIn vars.entries

end Expression
end FaultInjection
