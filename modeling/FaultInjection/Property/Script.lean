import FaultInjection.Property.AgeTable
import FaultInjection.Property.Basic
import FaultInjection.Property.ScriptTable

namespace FaultInjection.Property

open FaultInjection.Text (Ranges)

def script? (name : String) : Option Ranges :=
  find? ScriptTable.scripts name

def shared : List (String × String) → Ranges
  | [] => #[]
  | (_, text) :: es => Ranges.ofText text ++ shared es

/-- What a script uses, whether it is its own or not. A character that is known to be used by some
scripts counts neither as common nor as inherited. -/
def extendedScript? (name : String) : Option Ranges := do
  let (names, text) ← ScriptTable.scripts.find? (·.1.contains name)
  let own := Ranges.ofText text
  if names.contains "common" || names.contains "inherited" then
    pure (own.minus (shared ScriptTable.shared))
  else
    match ScriptTable.shared.find? fun e => names.contains e.1 with
    | some (_, more) => pure (own ++ Ranges.ofText more)
    | none => pure own

def assignedBy? (version : String) (before : Ranges) : List (List String × String) → Option Ranges
  | [] => none
  | (names, text) :: es =>
    let rs := before ++ Ranges.ofText text
    if names.contains version then some rs else assignedBy? version rs es

def age? (version : String) : Option Ranges :=
  assignedBy? version #[] AgeTable.ages

end FaultInjection.Property
