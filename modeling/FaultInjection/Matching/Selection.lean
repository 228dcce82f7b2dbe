import FaultInjection.Call
import FaultInjection.Registry

namespace FaultInjection

namespace Rule

/-- What is matched under a key. A matcher of the call sees, of business parameters, the
observation that is kept under the identifier of the rule. -/
def observation (r : Rule) (s : Strategy) (key : String) (observed : Value) : Value :=
  if s.isCustom && Key.names key Key.businessParams then
    (observed.get? r.identifier).getD .null
  else observed

theorem observation_of_custom {s : Strategy} (hs : s.isCustom = true) {key : String}
    (hk : Key.names key Key.businessParams = true) (r : Rule) (observed : Value) :
    r.observation s key observed = (observed.get? r.identifier).getD .null := by
  simp [observation, hs, hk]

def meets (r : Rule) (now : Nat) (call : Call) (ps : Patterns) (key : String) (expected : Value) :
    Except Crash Bool × Patterns :=
  match (call.attribute? key).filter (!·.isNull) with
  | none => (.ok false, ps)
  | some observed =>
    let s := Strategy.of key (call.matchers.get? key)
    s.isMatch ps now expected (r.observation s key observed)

/-- Whether all conditions hold that are not reserved; `checked` says whether one has been met
already, for there must be one. -/
def meetsAll (r : Rule) (now : Nat) (call : Call) :
    (checked : Bool) → Patterns → List (String × Value) → Except Crash Bool × Patterns
  | checked, ps, [] => (.ok checked, ps)
  | checked, ps, (key, expected) :: es =>
    if Key.isReserved key then meetsAll r now call checked ps es
    else
      match r.meets now call ps key expected with
      | (.ok true, ps) => meetsAll r now call true ps es
      | (.ok false, ps) => (.ok false, ps)
      | (.error c, ps) => (.error c, ps)

def applies (r : Rule) (now : Nat) (call : Call) (ps : Patterns) : Except Crash Bool × Patterns :=
  match r.conditions with
  | none => (.ok true, ps)
  | some conditions =>
    match call.attributes with
    | none => (.ok false, ps)
    | some _ => r.meetsAll now call false ps conditions.entries

end Rule

namespace Experiment

def select (now : Nat) (call : Call) :
    Patterns → List Experiment → Except Crash (Option Experiment) × Patterns
  | ps, [] => (.ok none, ps)
  | ps, e :: es =>
    match e.rule.applies now call ps with
    | (.ok true, ps) => (.ok (some e), ps)
    | (.ok false, ps) => select now call ps es
    | (.error c, ps) => (.error c, ps)

end Experiment
end FaultInjection
