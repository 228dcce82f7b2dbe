import FaultInjection.Proofs.Injection.Run

namespace FaultInjection

variable {σ : Type}

structure Invocation (σ : Type) where
  executor : Executor σ
  call : Call
  rule : Rule
  host : σ

def Invocation.reaction (v : Invocation σ) : Reaction σ :=
  v.executor v.call v.rule v.host

def Reaction.withLog (r : Reaction σ) (log : List (Invocation σ)) :
    Reaction (σ × List (Invocation σ)) :=
  ⟨r.call, r.ending, r.host, log⟩

def Executor.logged (x : Executor σ) : Executor (σ × List (Invocation σ)) :=
  fun call r host => (x call r host.1).withLog (host.2 ++ [⟨x, call, r, host.1⟩])

namespace ActionTable

def logged (t : ActionTable σ) : ActionTable (σ × List (Invocation σ)) :=
  ⟨t.anyTarget.map Executor.logged, t.perTarget.map (·.map Executor.logged)⟩

theorem resolve?_logged (t : ActionTable σ) (target action : String) :
    t.logged.resolve? target action = (t.resolve? target action).map Executor.logged := by
  have ht : (t.logged.forTarget target).get? action =
      ((t.forTarget target).get? action).map Executor.logged := by
    unfold forTarget logged
    rw [Dict.get?_map]
    cases t.perTarget.get? target with
    | none => rfl
    | some d => exact Dict.get?_map Executor.logged d action
  unfold resolve?
  rw [ht]
  cases (t.forTarget target).get? action with
  | some x => rfl
  | none => exact Dict.get?_map Executor.logged t.anyTarget action

end ActionTable

namespace Injector

variable (inj : Injector σ) (log : List (Invocation σ)) (e : Experiment) (call : Call)

def withLog : Injector (σ × List (Invocation σ)) :=
  { inj with actions := inj.actions.logged, host := (inj.host, log) }

@[simp] theorem registry_withLog : (inj.withLog log).registry = inj.registry := rfl

@[simp] theorem expressions_withLog : (inj.withLog log).expressions = inj.expressions := rfl

@[simp] theorem patterns_withLog : (inj.withLog log).patterns = inj.patterns := rfl

@[simp] theorem draws_withLog : (inj.withLog log).draws = inj.draws := rfl

@[simp] theorem now_withLog : (inj.withLog log).now = inj.now := rfl

def Attempt.withLog (a : Attempt σ) : Attempt (σ × List (Invocation σ)) :=
  { a with injector := a.injector.withLog log }

def Result.withLog (r : Result σ) : Result (σ × List (Invocation σ)) :=
  { r with injector := r.injector.withLog log }

def invocations (events : List Event) : List (Invocation σ) :=
  ((inj.withLog []).run events).host.2

def dispatched : List (Invocation σ) :=
  (inj.actions.resolve? call.target e.rule.action).toList.map fun x =>
    ⟨x, call.merge e.rule, e.rule, inj.host⟩

def gate {ε : Type} (verdict : Except ε Bool) (vs : List (Invocation σ)) : List (Invocation σ) :=
  match verdict with
  | .ok true => vs
  | _ => []

@[simp] theorem gate_ok_false {ε : Type} (vs : List (Invocation σ)) :
    gate (.ok false : Except ε Bool) vs = [] :=
  rfl

@[simp] theorem gate_error {ε : Type} (x : ε) (vs : List (Invocation σ)) :
    gate (.error x) vs = [] :=
  rfl

theorem mem_gate {ε : Type} {verdict : Except ε Bool} {vs : List (Invocation σ)}
    {v : Invocation σ} : v ∈ gate verdict vs ↔ verdict = .ok true ∧ v ∈ vs := by
  match verdict with
  | .ok true => simp [gate]
  | .ok false => simp [gate]
  | .error c => simp [gate]

theorem conclude_withLog (old : List (Invocation σ)) (reaction : Reaction σ) :
    (inj.withLog old).conclude e (reaction.withLog log) =
      (inj.conclude e reaction).withLog log := by
  obtain ⟨after, ending, host⟩ := reaction
  match ending with
  | .ok (.ok ()) => rfl
  | .ok (.error (.interrupted i)) => rfl
  | .ok (.error (.unsupported action reason)) => rfl
  | .ok (.error (.failed message)) => rfl
  | .error c => rfl

theorem dispatch_withLog : (inj.withLog log).dispatch e call =
    (inj.dispatch e call).withLog (log ++ inj.dispatched e call) := by
  have hx : (inj.withLog log).actions.resolve? call.target e.rule.action =
      (inj.actions.resolve? call.target e.rule.action).map Executor.logged :=
    ActionTable.resolve?_logged inj.actions call.target e.rule.action
  simp only [dispatch, dispatched, Call.target_merge, hx]
  cases inj.actions.resolve? call.target e.rule.action with
  | none =>
    rw [Option.toList_none, List.map_nil, List.append_nil]
    rfl
  | some x => exact conclude_withLog inj _ e log (x (call.merge e.rule) e.rule inj.host)

theorem askLimit_withLog : (inj.withLog log).askLimit e call =
    (inj.askLimit e call).withLog (log ++ gate (e.rule.admission (inj.registry.count e)
      inj.draws).verdict (inj.dispatched e call)) := by
  unfold askLimit
  rw [registry_withLog, draws_withLog]
  generalize e.rule.admission (inj.registry.count e) inj.draws = a
  obtain ⟨verdict, count, draws⟩ := a
  match verdict with
  | .ok true =>
    exact dispatch_withLog
      { inj with registry := inj.registry.setCount e count, draws := draws } log e call
  | .ok false =>
    rw [gate_ok_false, List.append_nil]
    rfl
  | .error err =>
    rw [gate_error, List.append_nil]
    rfl

theorem consider_withLog : (inj.withLog log).consider e call =
    (inj.consider e call).withLog (log ++
      gate (inj.expressions.pass inj.now e.rule.expressionText? call.arguments).1
        (gate (e.rule.admission (inj.registry.count e) inj.draws).verdict
          (inj.dispatched e call))) := by
  unfold consider
  rw [expressions_withLog, now_withLog]
  generalize inj.expressions.pass inj.now e.rule.expressionText? call.arguments = p
  obtain ⟨verdict, xs⟩ := p
  match verdict with
  | .ok true => exact askLimit_withLog { inj with expressions := xs } log e call
  | .ok false =>
    rw [gate_ok_false, List.append_nil]
    rfl
  | .error c =>
    rw [gate_error, List.append_nil]
    rfl

def invoked : List (Invocation σ) :=
  match inj.found call with
  | .ok (some e) =>
    gate (inj.expressions.pass inj.now e.rule.expressionText? call.arguments).1
      (gate (e.rule.admission (inj.registry.count e) inj.draws).verdict (inj.dispatched e call))
  | _ => []

@[simp] theorem attempt_withLog :
    (inj.withLog log).attempt call = (inj.attempt call).withLog (log ++ inj.invoked call) := by
  unfold attempt attemptAmong invoked found
  rw [registry_withLog, patterns_withLog, now_withLog]
  generalize Experiment.select inj.now call inj.patterns
    (inj.registry.forTarget call.target) = s
  obtain ⟨c | _ | e, ps⟩ := s
  · simp only [List.append_nil]
    rfl
  · simp only [List.append_nil]
    rfl
  · exact consider_withLog { inj with patterns := ps } log e call

@[simp] theorem settle_withLog (a : Attempt σ) : (a.withLog log).settle = a.settle.withLog log := by
  obtain ⟨ending, selected, admitted, call, inj⟩ := a
  match ending, selected, admitted with
  | .ok d, _, _ => rfl
  | .error c, none, _ => rfl
  | .error c, some e, true => rfl
  | .error c, some e, false => rfl

@[simp] theorem inject_withLog :
    (inj.withLog log).inject call = (inj.inject call).withLog (log ++ inj.invoked call) := by
  unfold inject
  rw [attempt_withLog, settle_withLog]

@[simp] theorem upkeep_withLog (u : Upkeep) :
    (inj.withLog log).upkeep u = (inj.upkeep u).withLog log := by
  cases u <;> rfl

/-- Keeping a log changes nothing but the log. -/
theorem run_withLog (events : List Event) : (inj.withLog log).run events =
    (inj.run events).withLog (log ++ inj.invocations events) := by
  -- what is run is the same for all logs, so the list must be found before the log is given
  obtain ⟨vs, hvs⟩ : ∃ vs, ∀ old, (inj.withLog old).run events =
      (inj.run events).withLog (old ++ vs) := by
    induction events generalizing inj with
    | nil =>
      refine ⟨[], fun old => ?_⟩
      rw [List.append_nil]
      rfl
    | cons event events ih =>
      cases event with
      | call c =>
        obtain ⟨vs, hvs⟩ := ih (inj.inject c).injector
        refine ⟨inj.invoked c ++ vs, fun old => ?_⟩
        change ((inj.withLog old).inject c).injector.run events = _
        rw [inject_withLog, ← List.append_assoc]
        exact hvs (old ++ inj.invoked c)
      | upkeep u =>
        obtain ⟨vs, hvs⟩ := ih (inj.upkeep u)
        refine ⟨vs, fun old => ?_⟩
        change ((inj.withLog old).upkeep u).run events = _
        rw [upkeep_withLog]
        exact hvs old
  have hran : inj.invocations events = vs := by
    unfold invocations
    rw [hvs]
    rfl
  rw [hran]
  exact hvs log

end Injector
end FaultInjection
