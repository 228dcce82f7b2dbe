import FaultInjection.Injection.Injector
import FaultInjection.Proofs.Expression.Verdict
import FaultInjection.Proofs.Matching.Verdict

/-!
Runs of an injector: calls, with time that passes and care for the caches between them. In all that
can come of an injector its caches stay faithful.
-/
namespace FaultInjection

inductive Upkeep
  | advance (span : Nat)
  | purgeExpressions
  | purgePatterns
  | clearExpressions
  | clearPatterns

inductive Event
  | call (c : Call)
  | upkeep (u : Upkeep)

namespace Event

def call? : Event → Option Call
  | .call c => some c
  | .upkeep _ => none

def calls (events : List Event) : List Call :=
  events.filterMap call?

@[simp] theorem calls_call (c : Call) (events : List Event) :
    calls (.call c :: events) = c :: calls events := rfl

@[simp] theorem calls_append (events events' : List Event) :
    calls (events ++ events') = calls events ++ calls events' :=
  List.filterMap_append

@[simp] theorem calls_replicate (n : Nat) (c : Call) :
    calls (List.replicate n (.call c)) = List.replicate n c := by
  induction n with
  | zero => rfl
  | succ n ih => rw [List.replicate_succ, calls_call, ih, List.replicate_succ]

theorem exists_of_calls_cons {events : List Event} {call : Call} {rest : List Call}
    (h : calls events = call :: rest) :
    ∃ before after, events = before ++ .call call :: after ∧ calls before = [] ∧
      calls after = rest := by
  obtain ⟨before, event, after, rfl, hbefore, hevent, hafter⟩ := List.filterMap_eq_cons_iff.1 h
  cases event with
  | call c =>
    cases hevent
    exact ⟨before, after, rfl, List.filterMap_eq_nil_iff.2 hbefore, hafter⟩
  | upkeep u => cases hevent

end Event

namespace Injector

variable {σ : Type}

def upkeep (inj : Injector σ) : Upkeep → Injector σ
  | .advance span => inj.advance span
  | .purgeExpressions => { inj with expressions := (inj.expressions.purge inj.now).2 }
  | .purgePatterns => { inj with patterns := (inj.patterns.purge inj.now).2 }
  | .clearExpressions => { inj with expressions := inj.expressions.clear }
  | .clearPatterns => { inj with patterns := inj.patterns.clear }

def after (inj : Injector σ) : Event → Injector σ
  | .call c => (inj.inject c).injector
  | .upkeep u => inj.upkeep u

def run (inj : Injector σ) (events : List Event) : Injector σ :=
  events.foldl after inj

theorem run_append (inj : Injector σ) (events events' : List Event) :
    inj.run (events ++ events') = (inj.run events).run events' :=
  List.foldl_append

structure Entry (σ : Type) where
  selected : Option Experiment
  decision : Decision
  call : Call
  registry : Registry
  host : σ

def entry (inj : Injector σ) (call : Call) : Entry σ :=
  let r := inj.inject call
  ⟨(inj.attempt call).selected, r.decision, r.call, r.injector.registry, r.injector.host⟩

def history : Injector σ → List Event → List (Entry σ)
  | _, [] => []
  | inj, .call c :: events => inj.entry c :: history (inj.inject c).injector events
  | inj, .upkeep u :: events => history (inj.upkeep u) events

structure Outcome where
  asked : Call
  decision : Decision
  answered : Call

def outcome (inj : Injector σ) (call : Call) : Outcome :=
  ⟨call, (inj.inject call).decision, (inj.inject call).call⟩

def outcomes : Injector σ → List Event → List Outcome
  | _, [] => []
  | inj, .call c :: events => inj.outcome c :: outcomes (inj.inject c).injector events
  | inj, .upkeep u :: events => outcomes (inj.upkeep u) events

theorem asked_outcomes (inj : Injector σ) (events : List Event) :
    (inj.outcomes events).map (·.asked) = Event.calls events := by
  induction events generalizing inj with
  | nil => rfl
  | cons event events ih =>
    cases event with
    | call c => rw [outcomes, List.map_cons, ih, Event.calls_call, outcome]
    | upkeep u => exact ih (inj.upkeep u)

def found (inj : Injector σ) (call : Call) : Except Crash (Option Experiment) :=
  (Experiment.select inj.now call inj.patterns (inj.registry.forTarget call.target)).1

def weighed (inj : Injector σ) (call : Call) : List (Rule × String × Value × Patterns) :=
  Experiment.weighed inj.now call inj.patterns (inj.registry.forTarget call.target)

theorem attempt_eq (inj : Injector σ) (call : Call) :
    ∃ ps, let searched := { inj with patterns := ps }
      inj.attempt call =
        match inj.found call with
        | .ok (some e) => searched.consider e call
        | .ok none => ⟨.ok .noCandidate, none, false, call, searched⟩
        | .error c => ⟨.error c, none, false, call, searched⟩ :=
  ⟨(Experiment.select inj.now call inj.patterns (inj.registry.forTarget call.target)).2, rfl⟩

theorem mem_of_found {inj : Injector σ} {call : Call} {e : Experiment}
    (h : inj.found call = .ok (some e)) : e ∈ inj.registry.forTarget call.target :=
  Experiment.mem_of_select call h

structure Kept (P : Injector σ → Prop) : Prop where
  counts : ∀ {inj} (e : Experiment) (n : UInt64), P inj →
    P { inj with registry := inj.registry.setCount e n }
  draws : ∀ {inj} (r : Rule) (n : UInt64), P inj →
    P { inj with draws := (r.admission n inj.draws).draws }
  host : ∀ {inj} (h : σ), P inj → P { inj with host := h }
  expressions : ∀ {inj} (text : Option String) (arguments : List Value), P inj →
    P { inj with expressions := (inj.expressions.pass inj.now text arguments).2 }
  patterns : ∀ {inj} (call : Call) (candidates : List Experiment), P inj →
    P { inj with patterns := (Experiment.select inj.now call inj.patterns candidates).2 }

namespace Kept

variable {P : Injector σ → Prop} {inj : Injector σ}

theorem rollBack (k : Kept P) (h : P inj) (e : Experiment) : P (inj.rollBack e) :=
  k.counts e _ h

theorem conclude (k : Kept P) (h : P inj) (e : Experiment) (reaction : Reaction σ) :
    P (inj.conclude e reaction).injector := by
  have hhost := k.host reaction.host h
  unfold Injector.conclude
  simp only
  split
  · exact hhost
  · exact hhost
  · exact k.rollBack hhost e
  · exact k.rollBack hhost e
  · exact hhost

theorem dispatch (k : Kept P) (h : P inj) (e : Experiment) (call : Call) :
    P (inj.dispatch e call).injector := by
  unfold Injector.dispatch
  simp only
  split
  · exact k.rollBack h e
  · exact k.conclude h e _

theorem askLimit (k : Kept P) (h : P inj) (e : Experiment) (call : Call) :
    P (inj.askLimit e call).injector := by
  have hasked := k.draws e.rule (inj.registry.count e)
    (k.counts e (e.rule.admission (inj.registry.count e) inj.draws).count h)
  unfold Injector.askLimit
  simp only
  split
  · exact k.dispatch hasked e call
  · exact hasked
  · exact hasked

theorem consider (k : Kept P) (h : P inj) (e : Experiment) (call : Call) :
    P (inj.consider e call).injector := by
  have hpassed := k.expressions e.rule.expressionText? call.arguments h
  unfold Injector.consider
  simp only
  split
  · exact k.askLimit hpassed e call
  · exact hpassed
  · exact hpassed

theorem attempt (k : Kept P) (h : P inj) (call : Call) : P (inj.attempt call).injector := by
  have hsearched := k.patterns call (inj.registry.forTarget call.target) h
  unfold Injector.attempt attemptAmong
  simp only
  split
  · exact k.consider hsearched _ call
  · exact hsearched
  · exact hsearched

theorem inject (k : Kept P) (h : P inj) (call : Call) : P (inj.inject call).injector := by
  have ha := k.attempt h call
  unfold Injector.inject Attempt.settle
  split
  · exact ha
  · cases (inj.attempt call).selected with
    | none => exact ha
    | some e =>
      simp only
      split
      · exact k.rollBack ha e
      · exact ha

end Kept

theorem kept_actions (t : ActionTable σ) : Kept (σ := σ) (·.actions = t) where
  counts _ _ h := h
  draws _ _ h := h
  host _ h := h
  expressions _ _ h := h
  patterns _ _ h := h

@[simp] theorem actions_upkeep (inj : Injector σ) (u : Upkeep) :
    (inj.upkeep u).actions = inj.actions := by
  cases u <;> rfl

structure Concerns (e : Experiment) (a : Attempt σ) : Prop where
  selected : a.selected = some e
  rule : a.settle.decision.rule? = some e.rule

theorem concerns_conclude (inj : Injector σ) (e : Experiment) (reaction : Reaction σ) :
    Concerns e (inj.conclude e reaction) := by
  unfold conclude
  simp only
  split <;> exact ⟨rfl, rfl⟩

theorem concerns_dispatch (inj : Injector σ) (e : Experiment) (call : Call) :
    Concerns e (inj.dispatch e call) := by
  unfold dispatch
  simp only
  split
  · exact ⟨rfl, rfl⟩
  · exact concerns_conclude inj e _

theorem concerns_askLimit (inj : Injector σ) (e : Experiment) (call : Call) :
    Concerns e (inj.askLimit e call) := by
  unfold askLimit
  simp only
  split
  · exact concerns_dispatch _ e call
  · exact ⟨rfl, rfl⟩
  · exact ⟨rfl, rfl⟩

theorem concerns_consider (inj : Injector σ) (e : Experiment) (call : Call) :
    Concerns e (inj.consider e call) := by
  unfold consider
  simp only
  split
  · exact concerns_askLimit _ e call
  · exact ⟨rfl, rfl⟩
  · exact ⟨rfl, rfl⟩

theorem mem_of_selected {inj : Injector σ} {call : Call} {e : Experiment}
    (h : (inj.attempt call).selected = some e) : e ∈ inj.registry.forTarget call.target := by
  obtain ⟨ps, ha⟩ := inj.attempt_eq call
  rw [ha] at h
  cases hf : inj.found call with
  | error c =>
    rw [hf] at h
    cases h
  | ok found =>
    rw [hf] at h
    cases found with
    | none => cases h
    | some x =>
      have hx := (concerns_consider { inj with patterns := ps } x call).selected
      obtain rfl : x = e := Option.some.inj (hx.symm.trans h)
      exact mem_of_found hf

structure Faithful (inj : Injector σ) : Prop where
  expressions : inj.expressions.Faithful Expression.compile
  patterns : inj.patterns.Faithful Patterns.compile

theorem kept_faithful : Kept (Faithful (σ := σ)) where
  counts _ _ h := ⟨h.expressions, h.patterns⟩
  draws _ _ h := ⟨h.expressions, h.patterns⟩
  host _ h := ⟨h.expressions, h.patterns⟩
  expressions text arguments h :=
    ⟨(Expressions.pass_spec h.expressions _ text arguments).2, h.patterns⟩
  patterns call candidates h :=
    ⟨h.expressions, (Experiment.select_spec call h.patterns _ candidates).2⟩

theorem Faithful.upkeep {inj : Injector σ} (h : inj.Faithful) (u : Upkeep) :
    (inj.upkeep u).Faithful := by
  cases u with
  | advance span => exact ⟨h.expressions, h.patterns⟩
  | purgeExpressions => exact ⟨Cache.faithful_purge h.expressions _, h.patterns⟩
  | purgePatterns => exact ⟨h.expressions, Cache.faithful_purge h.patterns _⟩
  | clearExpressions => exact ⟨Cache.faithful_clear, h.patterns⟩
  | clearPatterns => exact ⟨h.expressions, Cache.faithful_clear⟩

theorem Faithful.after {inj : Injector σ} (h : inj.Faithful) (event : Event) :
    (inj.after event).Faithful := by
  cases event with
  | call c => exact kept_faithful.inject h c
  | upkeep u => exact h.upkeep u

theorem Faithful.run {inj : Injector σ} (h : inj.Faithful) (events : List Event) :
    (inj.run events).Faithful := by
  induction events generalizing inj with
  | nil => exact h
  | cons event events ih => exact ih (h.after event)

def start (ttl capacity : Nat) (actions : ActionTable σ) (registry : Registry) (host : σ)
    (draws : Draws) : Injector σ :=
  { new ttl capacity actions registry host with draws := draws }

theorem faithful_start (ttl capacity : Nat) (actions : ActionTable σ) (registry : Registry)
    (host : σ) (draws : Draws) : (start ttl capacity actions registry host draws).Faithful :=
  ⟨Cache.faithful_empty ttl capacity 0, Cache.faithful_empty ttl capacity 0⟩

/-- What can come of an injector. Whoever shares its registry may change that at any time. -/
inductive Reached : Injector σ → Prop
  | start (ttl capacity : Nat) (actions : ActionTable σ) (registry : Registry) (host : σ)
      (draws : Draws) : Reached (start ttl capacity actions registry host draws)
  | after {inj : Injector σ} (h : Reached inj) (event : Event) : Reached (inj.after event)
  | registry {inj : Injector σ} (h : Reached inj) (r : Registry) :
      Reached { inj with registry := r }

theorem Reached.faithful {inj : Injector σ} (h : Reached inj) : inj.Faithful := by
  induction h with
  | start ttl capacity actions registry host draws =>
    exact faithful_start ttl capacity actions registry host draws
  | after _ event ih => exact ih.after event
  | registry _ r ih => exact ⟨ih.expressions, ih.patterns⟩

end Injector
end FaultInjection
