import FaultInjection.Expression.Evaluator
import FaultInjection.Injection.Decision
import FaultInjection.Limit.Admission
import FaultInjection.Matching.Selection

/-!
The decision on a call. The first experiment whose rule applies is the only one considered: its
expression may exclude the call and its limit may refuse it, and if neither does, its action is
carried out. Where the action has no effect the fire count is taken back. A crash on the way breaks
the call off; whoever called never sees it.
-/
namespace FaultInjection

structure Injector (σ : Type) where
  actions : ActionTable σ
  registry : Registry
  expressions : Expressions
  patterns : Patterns
  now : Nat
  draws : Draws
  host : σ

namespace Injector

variable {σ : Type}

def defaultTtlSecs : Nat := 3600

def defaultTtl : Nat := defaultTtlSecs * Cache.second

def defaultCapacity : Nat := 1024

def new (ttl capacity : Nat) (actions : ActionTable σ) (registry : Registry) (host : σ) :
    Injector σ where
  actions := actions
  registry := registry
  expressions := Cache.empty ttl capacity 0
  patterns := Cache.empty ttl capacity 0
  now := 0
  draws := Draws.constant 100
  host := host

structure Result (σ : Type) where
  decision : Decision
  call : Call
  injector : Injector σ

structure Attempt (σ : Type) where
  ending : Except Crash Decision
  selected : Option Experiment
  admitted : Bool
  call : Call
  injector : Injector σ

def rollBack (inj : Injector σ) (e : Experiment) : Injector σ :=
  { inj with registry := inj.registry.setCount e (Counter.decrease (inj.registry.count e)) }

def conclude (inj : Injector σ) (e : Experiment) (reaction : Reaction σ) : Attempt σ :=
  let inj := { inj with host := reaction.host }
  match reaction.ending with
  | .ok (.ok ()) => ⟨.ok (.fired e.rule), some e, true, reaction.call, inj⟩
  | .ok (.error (.interrupted i)) =>
    ⟨.ok (.interrupted e.rule i), some e, true, reaction.call, inj⟩
  | .ok (.error (.unsupported action reason)) =>
    ⟨.ok (.unsupported e.rule (ActionError.unsupported action reason).message), some e, true,
      reaction.call, inj.rollBack e⟩
  | .ok (.error (.failed message)) =>
    ⟨.ok (.failed (some e.rule) (ActionError.failed message).message), some e, true,
      reaction.call, inj.rollBack e⟩
  | .error c => ⟨.error c, some e, true, reaction.call, inj⟩

def dispatch (inj : Injector σ) (e : Experiment) (call : Call) : Attempt σ :=
  let call := call.merge e.rule
  match inj.actions.resolve? call.target e.rule.action with
  | none =>
    ⟨.ok (.failed (some e.rule) ("no executor for action \"" ++ e.rule.action ++ "\"")), some e,
      true, call, inj.rollBack e⟩
  | some x => inj.conclude e (x call e.rule inj.host)

def askLimit (inj : Injector σ) (e : Experiment) (call : Call) : Attempt σ :=
  let a := e.rule.admission (inj.registry.count e) inj.draws
  let inj := { inj with registry := inj.registry.setCount e a.count, draws := a.draws }
  match a.verdict with
  | .ok true => inj.dispatch e call
  | .ok false => ⟨.ok (.limited e.rule), some e, false, call, inj⟩
  | .error err => ⟨.ok (.failed (some e.rule) err.message), some e, false, call, inj⟩

def consider (inj : Injector σ) (e : Experiment) (call : Call) : Attempt σ :=
  let (passed, xs) := inj.expressions.pass inj.now e.rule.expressionText? call.arguments
  let inj := { inj with expressions := xs }
  match passed with
  | .ok true => inj.askLimit e call
  | .ok false => ⟨.ok (.paramExcluded e.rule), some e, false, call, inj⟩
  | .error c => ⟨.error c, some e, false, call, inj⟩

def attemptAmong (inj : Injector σ) (candidates : List Experiment) (call : Call) : Attempt σ :=
  let (found, ps) := Experiment.select inj.now call inj.patterns candidates
  let inj := { inj with patterns := ps }
  match found with
  | .ok (some e) => inj.consider e call
  | .ok none => ⟨.ok .noCandidate, none, false, call, inj⟩
  | .error c => ⟨.error c, none, false, call, inj⟩

def attempt (inj : Injector σ) (call : Call) : Attempt σ :=
  inj.attemptAmong (inj.registry.forTarget call.target) call

/-- Turns a crash into a decision; where the call had been admitted, its count is taken back. -/
def Attempt.settle (a : Attempt σ) : Result σ :=
  match a.ending with
  | .ok d => ⟨d, a.call, a.injector⟩
  | .error c =>
    let inj := match a.selected with
      | some e => if a.admitted then a.injector.rollBack e else a.injector
      | none => a.injector
    ⟨.failed (a.selected.map (·.rule)) c.reason, a.call, inj⟩

def inject (inj : Injector σ) (call : Call) : Result σ :=
  (inj.attempt call).settle

def advance (inj : Injector σ) (span : Nat) : Injector σ :=
  { inj with now := inj.now + span }

end Injector
end FaultInjection
