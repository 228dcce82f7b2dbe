import FaultInjection.Cache.Basic
import FaultInjection.Expression.Basic

namespace FaultInjection

abbrev Expressions := Cache Expression

namespace Expressions

def compiled (xs : Expressions) (now : Nat) (text : String) :
    Except ExpressionError Expression × Expressions :=
  xs.getOrCompile now text Expression.compile

def evaluate (xs : Expressions) (now : Nat) (text : String) (arguments : List Value) :
    Except Expression.Stop Value × Expressions :=
  match xs.compiled now text with
  | (.ok e, xs) => (e.execute (Expression.Bindings.ofArguments arguments), xs)
  | (.error e, xs) => (.error (.error e), xs)

def stated? (text : Option String) : Option String :=
  (text.map Text.trim).filter (· ≠ "")

def passes : Except Expression.Stop Value → Except Crash Bool
  | .ok (.bool b) => .ok b
  | .ok _ => .ok false
  | .error (.error _) => .ok false
  | .error (.crash c) => .error c

def pass (xs : Expressions) (now : Nat) (text : Option String) (arguments : List Value) :
    Except Crash Bool × Expressions :=
  match stated? text with
  | none => (.ok true, xs)
  | some text =>
    if arguments.isEmpty then (.ok true, xs)
    else
      let (result, xs) := xs.evaluate now text arguments
      (passes result, xs)

end Expressions
end FaultInjection
