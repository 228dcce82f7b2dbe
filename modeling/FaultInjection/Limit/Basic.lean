import FaultInjection.Decimal.Reader
import FaultInjection.Rule.Basic
import FaultInjection.Text.Space

namespace FaultInjection

inductive Limit
  | unlimited
  | count (bound : UInt64)
  | percent (share : Nat)
  deriving DecidableEq, Repr

inductive LimitError
  | invalidCount (text : String)
  | invalidPercent (text : String)
  deriving DecidableEq, Repr

namespace LimitError

def message : LimitError → String
  | .invalidCount text => "invalid effect count \"" ++ text ++ "\""
  | .invalidPercent text =>
    "invalid effect percent \"" ++ text ++ "\", expected an integer between 0 and 100"

end LimitError

namespace Limit

def declared? (v : Option Value) : Option String :=
  match v with
  | none => none
  | some v =>
    let text := Text.trim v.render
    if text = "" ∨ text = "null" then none else some text

def parseCount (text : String) : Except LimitError UInt64 :=
  match Decimal.unsigned? UInt64.size text.toList with
  | some n => .ok n.toUInt64
  | none => .error (.invalidCount text)

def parsePercent (text : String) : Except LimitError Nat :=
  match Decimal.unsigned? 101 text.toList with
  | some n => .ok n
  | none => .error (.invalidPercent text)

def of (r : Rule) : Except LimitError Limit :=
  match declared? (r.condition? Key.effectCount) with
  | some text => (parseCount text).map .count
  | none =>
    match declared? (r.condition? Key.effectPercent) with
    | some text => (parsePercent text).map .percent
    | none => .ok .unlimited

end Limit
end FaultInjection
