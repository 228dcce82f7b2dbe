import FaultInjection.Crash
import FaultInjection.Expression.Operand
import FaultInjection.Expression.Token

namespace FaultInjection

namespace Expression

inductive Expectation
  | kind (k : Kind)
  | number
  | numberOrString
  | primitive
  | tupleOf (n : Nat)
  | tupleBetween (lo hi : Nat)
  deriving DecidableEq, Repr

def Expectation.text : Expectation → String
  | .kind k => "a Value::" ++ k.name
  | .number => "a Value::Float or Value::Int"
  | .numberOrString => "a Value::Number or a Value::String"
  | .primitive => "one of [String, Int, Float, Boolean]"
  | .tupleOf n => "a Value::Tuple of length " ++ toString n
  | .tupleBetween lo hi => "a Value::Tuple of length " ++ toString lo ++ " to " ++ toString hi

inductive Arithmetic
  | add | sub | mul | div | mod
  deriving DecidableEq, Repr

namespace Arithmetic

def gerund : Arithmetic → String
  | .add => "adding"
  | .sub => "subtracting"
  | .mul => "multiplying"
  | .div => "dividing"
  | .mod => "modulating"

def sign : Arithmetic → String
  | .add => "+"
  | .sub => "-"
  | .mul => "*"
  | .div => "/"
  | .mod => "%"

end Arithmetic

inductive Failure
  | expected (what : Expectation) (got : Operand)
  | argumentCount (wanted given : Nat)
  | mixedSum (a b : Kind)
  | overflow (op : Arithmetic) (a b : Int64)
  | negateOverflow (a : Int64)
  | unknownFunction (name : String)
  | assignment
  | outOfBounds
  | lenOperand (got : Operand)
  | containsOperands
  | containsCount

def Failure.message : Failure → String
  | .expected what got => "Expected " ++ what.text ++ ", but got " ++ got.detail ++ "."
  | .argumentCount n given =>
    "An operator expected " ++ toString n ++ " arguments, but got " ++ toString given ++ "."
  | .mixedSum a b =>
    "The operator Add was called with a wrong combination of types: [" ++ a.name ++ ", " ++
      b.name ++ "]"
  | .overflow op a b =>
    "Error " ++ op.gerund ++ " " ++ (Operand.int a).text ++ " " ++ op.sign ++ " " ++
      (Operand.int b).text
  | .negateOverflow a => "Error negating -" ++ (Operand.int a).text
  | .unknownFunction name =>
    "Function identifier is not bound to anything by context: " ++ Text.quoted name ++ "."
  | .assignment => "Cannot manipulate context"
  | .outOfBounds => "Tried to access a tuple or string at an invalid index"
  | .lenOperand got => "Error: len expects a string or tuple, got " ++ got.text
  | .containsOperands => "Error: contains expects (string, string) or (tuple, value)"
  | .containsCount => "Error: contains expects two arguments"

end Expression

inductive ExpressionError
  | malformed (e : Expression.ReadError)
  | tooLong (length max : Nat)
  | tooDeep (depth max : Nat)
  | unknownVariable (name : String)
  | divisionByZero
  | evaluation (f : Expression.Failure)

namespace ExpressionError

def message : ExpressionError → String
  | .malformed e => "syntax error: " ++ e.message
  | .tooLong length max =>
    "expression length is " ++ toString length ++ ", but maximum allowed is " ++ toString max
  | .tooDeep depth max =>
    "expression nesting depth is " ++ toString depth ++ ", but maximum allowed is " ++ toString max
  | .unknownVariable name => "unknown variable \"" ++ name ++ "\""
  | .divisionByZero => "division by zero"
  | .evaluation f => "evaluation failed: " ++ f.message

end ExpressionError

namespace Expression

inductive Stop
  | error (e : ExpressionError)
  | crash (c : Crash)

def fail {α : Type} (f : Failure) : Except Stop α :=
  .error (.error (.evaluation f))

end Expression
end FaultInjection
