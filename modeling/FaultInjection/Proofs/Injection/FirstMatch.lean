import FaultInjection.Proofs.Injection.Invocation

namespace FaultInjection.Injector

variable {σ : Type} {inj : Injector σ} {e : Experiment} {call : Call}

def verdict (inj : Injector σ) (call : Call) (e : Experiment) : Except Crash Bool :=
  (e.rule.applies inj.now call inj.patterns).1

theorem Faithful.verdict_eq (h : inj.Faithful) (call : Call) (e : Experiment) :
    inj.verdict call e = e.rule.judge call :=
  (e.rule.applies_spec call h.patterns inj.now).1

theorem invocations_call (inj : Injector σ) (call : Call) :
    inj.invocations [.call call] = inj.invoked call := by
  have h := inject_withLog inj [] call
  change ((inj.withLog []).inject call).injector.host.2 = _
  rw [h]
  exact List.nil_append _

theorem length_gate_le {ε : Type} {verdict : Except ε Bool} {vs : List (Invocation σ)} {n : Nat}
    (h : vs.length ≤ n) : (gate verdict vs).length ≤ n := by
  unfold gate
  split
  · exact h
  · exact Nat.zero_le n

theorem length_dispatched_le (inj : Injector σ) (e : Experiment) (call : Call) :
    (inj.dispatched e call).length ≤ 1 := by
  unfold dispatched
  cases inj.actions.resolve? call.target e.rule.action with
  | none => exact Nat.zero_le 1
  | some x => exact Nat.le_refl 1

theorem mem_dispatched {v : Invocation σ} : v ∈ inj.dispatched e call ↔
    inj.actions.resolve? call.target e.rule.action = some v.executor ∧
      v.call = call.merge e.rule ∧ v.rule = e.rule ∧ v.host = inj.host := by
  obtain ⟨x, c, r, s⟩ := v
  unfold dispatched
  constructor
  · intro hv
    obtain ⟨y, hy, heq⟩ := List.mem_map.1 hv
    cases heq
    exact ⟨Option.mem_toList.1 hy, rfl, rfl, rfl⟩
  · rintro ⟨hx, rfl, rfl, rfl⟩
    exact List.mem_map.2 ⟨x, Option.mem_toList.2 hx, rfl⟩

def Hands (vs : List (Invocation σ)) (a : Attempt σ) : Prop :=
  ∀ i, a.settle.decision.interrupt? = some i ↔
    ∃ v ∈ vs, v.reaction.ending = .ok (.error (.interrupted i))

theorem hands_nil {a : Attempt σ} (h : a.settle.decision.interrupt? = none) : Hands [] a := by
  intro i
  simp [h]

theorem hands_conclude (inj : Injector σ) (e : Experiment) (v : Invocation σ) :
    Hands [v] (inj.conclude e v.reaction) := by
  intro i
  simp only [List.mem_singleton, exists_eq_left, conclude]
  match v.reaction.ending with
  | .ok (.ok ()) => simp [Attempt.settle, Decision.interrupt?]
  | .ok (.error (.interrupted j)) => simp [Attempt.settle, Decision.interrupt?]
  | .ok (.error (.unsupported action reason)) => simp [Attempt.settle, Decision.interrupt?]
  | .ok (.error (.failed message)) => simp [Attempt.settle, Decision.interrupt?]
  | .error c => simp [Attempt.settle, Decision.interrupt?]

theorem hands_dispatch (inj : Injector σ) (e : Experiment) (call : Call) :
    Hands (inj.dispatched e call) (inj.dispatch e call) := by
  unfold dispatch dispatched
  simp only [Call.target_merge]
  cases inj.actions.resolve? call.target e.rule.action with
  | none => exact hands_nil rfl
  | some x => exact hands_conclude inj e ⟨x, call.merge e.rule, e.rule, inj.host⟩

theorem hands_askLimit (inj : Injector σ) (e : Experiment) (call : Call) :
    Hands (gate (e.rule.admission (inj.registry.count e) inj.draws).verdict
      (inj.dispatched e call)) (inj.askLimit e call) := by
  unfold askLimit
  generalize e.rule.admission (inj.registry.count e) inj.draws = a
  obtain ⟨verdict, count, draws⟩ := a
  match verdict with
  | .ok true =>
    exact hands_dispatch { inj with registry := inj.registry.setCount e count, draws := draws } e
      call
  | .ok false => exact hands_nil rfl
  | .error err => exact hands_nil rfl

theorem hands_consider (inj : Injector σ) (e : Experiment) (call : Call) :
    Hands (gate (inj.expressions.pass inj.now e.rule.expressionText? call.arguments).1
      (gate (e.rule.admission (inj.registry.count e) inj.draws).verdict (inj.dispatched e call)))
      (inj.consider e call) := by
  unfold consider
  generalize inj.expressions.pass inj.now e.rule.expressionText? call.arguments = p
  obtain ⟨verdict, xs⟩ := p
  match verdict with
  | .ok true => exact hands_askLimit { inj with expressions := xs } e call
  | .ok false => exact hands_nil rfl
  | .error c => exact hands_nil rfl

structure Idle (inj : Injector σ) (call : Call) : Prop where
  admitted : (inj.attempt call).admitted = false
  invocations : inj.invocations [.call call] = []
  registry : (inj.inject call).injector.registry = inj.registry

theorem idle_of_attempt {ending : Except Crash Decision} {ps : Patterns}
    (ha : inj.attempt call = ⟨ending, none, false, call, { inj with patterns := ps }⟩)
    (hv : inj.invoked call = []) : inj.Idle call := by
  refine ⟨?_, (invocations_call inj call).trans hv, ?_⟩
  · rw [ha]
  · rw [inject, ha]
    cases ending <;> rfl

theorem idle_of_none (h : inj.found call = .ok none) :
    (inj.inject call).decision = .noCandidate ∧ inj.Idle call := by
  obtain ⟨ps, ha⟩ := inj.attempt_eq call
  rw [h] at ha
  constructor
  · rw [inject, ha]
    rfl
  · apply idle_of_attempt ha
    rw [invoked, h]

theorem idle_of_crash {c : Crash} (h : inj.found call = .error c) :
    (inj.inject call).decision = .failed none c.reason ∧ inj.Idle call := by
  obtain ⟨ps, ha⟩ := inj.attempt_eq call
  rw [h] at ha
  constructor
  · rw [inject, ha]
    rfl
  · apply idle_of_attempt ha
    rw [invoked, h]

theorem consider_of_found (h : inj.found call = .ok (some e)) :
    ∃ ps, inj.attempt call = { inj with patterns := ps }.consider e call := by
  obtain ⟨ps, ha⟩ := inj.attempt_eq call
  rw [h] at ha
  exact ⟨ps, ha⟩

theorem invocations_of_found (h : inj.found call = .ok (some e)) :
    inj.invocations [.call call] =
      gate (inj.expressions.pass inj.now e.rule.expressionText? call.arguments).1
        (gate (e.rule.admission (inj.registry.count e) inj.draws).verdict
          (inj.dispatched e call)) := by
  rw [invocations_call, invoked, h]

theorem Faithful.found_eq (h : inj.Faithful) (call : Call) :
    inj.found call = Experiment.choose call (inj.registry.forTarget call.target) :=
  (Experiment.select_spec call h.patterns inj.now _).1

/-- A call works on the first candidate that applies, in the order in which they were registered,
and on no other. If there is none, or a matcher crashes before, nothing is done. -/
theorem first_match_final (h : inj.Reached) (call : Call) :
    let candidates := inj.registry.forTarget call.target
    let ran := inj.invocations [.call call]
    let r := inj.inject call
    ((∀ e ∈ candidates, inj.verdict call e = .ok false) →
      r.decision = .noCandidate ∧ inj.Idle call) ∧
    ∀ before e behind, candidates = before ++ e :: behind →
      (∀ b ∈ before, inj.verdict call b = .ok false) →
      (∀ c, inj.verdict call e = .error c → r.decision = .failed none c.reason ∧ inj.Idle call) ∧
      (inj.verdict call e = .ok true →
        (inj.attempt call).selected = some e ∧ r.decision.rule? = some e.rule ∧
        (∀ others, inj.attemptAmong (before ++ e :: others) call = inj.attempt call) ∧
        ran.length ≤ 1 ∧
        (∀ v, v ∈ ran ↔
          (inj.expressions.pass inj.now e.rule.expressionText? call.arguments).1 = .ok true ∧
          (e.rule.admission (inj.registry.count e) inj.draws).verdict = .ok true ∧
          inj.actions.resolve? call.target e.rule.action = some v.executor ∧
          v.call = call.merge e.rule ∧ v.rule = e.rule ∧ v.host = inj.host) ∧
        ∀ i, r.decision.interrupt? = some i ↔
          ∃ v ∈ ran, v.reaction.ending = .ok (.error (.interrupted i))) := by
  intro candidates ran r
  have hf := h.faithful
  have hfound : inj.found call = Experiment.choose call candidates := hf.found_eq call
  simp only [hf.verdict_eq]
  constructor
  · intro hnone
    have hc : inj.found call = .ok none := by
      rw [hfound, ← List.append_nil candidates, Experiment.choose_append call hnone]
      rfl
    exact idle_of_none hc
  · intro before e behind hsplit hbefore
    rw [hsplit, Experiment.choose_append call hbefore] at hfound
    constructor
    · intro c he
      have hc : inj.found call = .error c := by
        rw [hfound, Experiment.choose, he]
      exact idle_of_crash hc
    · intro he
      have hc : inj.found call = .ok (some e) := by
        rw [hfound, Experiment.choose, he]
      obtain ⟨ps, hattempt⟩ := consider_of_found hc
      have hran : ran = _ := invocations_of_found hc
      have hconcerns := concerns_consider { inj with patterns := ps } e call
      have hhands := hands_consider { inj with patterns := ps } e call
      rw [← hattempt] at hconcerns hhands
      refine ⟨hconcerns.selected, hconcerns.rule, fun others => ?_, ?_, fun v => ?_, ?_⟩
      -- `inj` keeps its registry, so the candidates are exchanged in the search alone
      · unfold attempt
        change inj.attemptAmong _ call = inj.attemptAmong candidates call
        unfold attemptAmong
        rw [hsplit, Experiment.select_append call hf.patterns inj.now hbefore he others behind]
      · rw [hran]
        exact length_gate_le (length_gate_le (length_dispatched_le inj e call))
      · rw [hran, mem_gate, mem_gate, mem_dispatched]
      · rw [hran]
        exact hhands

theorem first_match_final_crash :
    let e : Rule := { target := "t", action := "a" }
    let p := e.withCondition "k" (.str "v")
    let throws : Executor Unit := fun call _ s =>
      ⟨call, .ok (.error (.interrupted (.throwing "no"))), s⟩
    let inj := start 1 1 (ActionTable.empty.withAction "a" throws)
      (Registry.empty.registerAll [p, e, p]) () (Draws.constant 1)
    let plain : Call := { target := "t" }
    let crashes := (plain.withAttribute "k" (.str "v")).withMatcher "k"
      ⟨fun _ _ => .error ⟨some "no"⟩, fun _ _ => .ok true⟩
    inj.Reached ∧ inj.registry.forTarget "t" = [⟨0, p⟩] ++ ⟨1, e⟩ :: [⟨2, p⟩] ∧
      inj.verdict plain ⟨0, p⟩ = .ok false ∧ inj.verdict plain ⟨1, e⟩ = .ok true ∧
      (inj.inject plain).decision.rule? = some e ∧
      inj.verdict crashes ⟨0, p⟩ = .error ⟨some "no"⟩ ∧
      (inj.inject crashes).decision = .failed none "panicked: no" := by
  intro e p throws inj plain crashes
  have h : inj.Reached := Reached.start 1 1 _ _ () _
  have hsplit : inj.registry.forTarget "t" = [⟨0, p⟩] ++ ⟨1, e⟩ :: [⟨2, p⟩] := by
    change (Registry.empty.registerAll [p, e, p]).forTarget "t" = _
    simp only [Registry.registerAll, Registry.forTarget_register]
    rfl
  have hp : inj.verdict plain ⟨0, p⟩ = .ok false := by rfl
  have he : inj.verdict plain ⟨1, e⟩ = .ok true := by rfl
  have hc : inj.verdict crashes ⟨0, p⟩ = .error ⟨some "no"⟩ := by rfl
  have hplain := (first_match_final h plain).2 [⟨0, p⟩] ⟨1, e⟩ [⟨2, p⟩] hsplit
    (fun b hb => List.mem_singleton.1 hb ▸ hp)
  have hcrash := (first_match_final h crashes).2 [] ⟨0, p⟩ [⟨1, e⟩, ⟨2, p⟩] hsplit nofun
  exact ⟨h, hsplit, hp, he, (hplain.2 he).2.1, hc, (hcrash.1 _ hc).1⟩

end FaultInjection.Injector
