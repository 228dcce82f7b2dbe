import FaultInjection.Action

namespace FaultInjection

inductive Decision
  | noCandidate
  | paramExcluded (r : Rule)
  | limited (r : Rule)
  | fired (r : Rule)
  | interrupted (r : Rule) (i : Interrupt)
  | unsupported (r : Rule) (reason : String)
  | failed (r : Option Rule) (reason : String)

namespace Decision

def rule? : Decision → Option Rule
  | .noCandidate => none
  | .paramExcluded r | .limited r | .fired r | .interrupted r _ | .unsupported r _ => some r
  | .failed r _ => r

def tookEffect : Decision → Bool
  | .fired _ | .interrupted _ _ => true
  | _ => false

def kind : Decision → String
  | .noCandidate => "no_candidate"
  | .paramExcluded _ => "param_excluded"
  | .limited _ => "limited"
  | .fired _ => "fired"
  | .interrupted _ _ => "interrupted"
  | .unsupported _ _ => "unsupported"
  | .failed _ _ => "failed"

def interrupt? : Decision → Option Interrupt
  | .interrupted _ i => some i
  | _ => none

def reason? : Decision → Option String
  | .interrupted _ i => some i.describe
  | .unsupported _ reason | .failed _ reason => some reason
  | _ => none

def describe (d : Decision) : String :=
  d.kind ++ (d.rule?.elim "" fun r => " [" ++ r.describe ++ "]") ++
    d.reason?.elim "" fun reason => ": " ++ reason

end Decision
end FaultInjection
