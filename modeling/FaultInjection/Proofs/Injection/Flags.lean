import FaultInjection.Proofs.Injection.FirstMatch

namespace FaultInjection

variable {σ : Type}

def Executor.KeepsCall (x : Executor σ) : Prop :=
  ∀ call r host, (x call r host).call = call

namespace Call

structure Overlaid (call : Call) (r : Rule) (after : Call) : Prop where
  target : after.target = call.target
  attributes : after.attributes = call.attributes
  arguments : after.arguments = call.arguments
  matchers : after.matchers = call.matchers
  flags : ∀ name, after.flags.get? name = (r.flags.get? name).or (call.flags.get? name)

theorem overlaid_merge (call : Call) (r : Rule) : call.Overlaid r (call.merge r) :=
  ⟨rfl, rfl, rfl, rfl, fun name => Dict.get?_merge call.flags r.flags name⟩

end Call

namespace Injector

structure Admits (inj : Injector σ) (call : Call) (e : Experiment) : Prop where
  found : inj.found call = .ok (some e)
  passed : (inj.expressions.pass inj.now e.rule.expressionText? call.arguments).1 = .ok true
  granted : (e.rule.admission (inj.registry.count e) inj.draws).verdict = .ok true

def decided (r : Rule) : Except Crash (Except ActionError Unit) → Decision
  | .ok (.ok ()) => .fired r
  | .ok (.error (.interrupted i)) => .interrupted r i
  | .ok (.error (.unsupported action reason)) =>
    .unsupported r (ActionError.unsupported action reason).message
  | .ok (.error (.failed message)) => .failed (some r) (ActionError.failed message).message
  | .error c => .failed (some r) c.reason

inductive Enacted (actions : ActionTable σ) (host : σ) (call : Call) (e : Experiment) :
    Decision → Prop
  | missing (hx : actions.resolve? call.target e.rule.action = none) :
    Enacted actions host call e
      (.failed (some e.rule) ("no executor for action \"" ++ e.rule.action ++ "\""))
  | ran {x : Executor σ} (hx : actions.resolve? call.target e.rule.action = some x) :
    Enacted actions host call e (decided e.rule (x (call.merge e.rule) e.rule host).ending)

inductive TurnedAway (inj : Injector σ) (call : Call) : Decision → Prop
  | noCandidate (h : inj.found call = .ok none) : TurnedAway inj call .noCandidate
  | matchingCrashed {c : Crash} (h : inj.found call = .error c) :
    TurnedAway inj call (.failed none c.reason)
  | excluded {e : Experiment} (h : inj.found call = .ok (some e))
      (hp : (inj.expressions.pass inj.now e.rule.expressionText? call.arguments).1 = .ok false) :
    TurnedAway inj call (.paramExcluded e.rule)
  | expressionCrashed {e : Experiment} (h : inj.found call = .ok (some e)) {c : Crash}
      (hp : (inj.expressions.pass inj.now e.rule.expressionText? call.arguments).1 = .error c) :
    TurnedAway inj call (.failed (some e.rule) c.reason)
  | limited {e : Experiment} (h : inj.found call = .ok (some e))
      (hl : (e.rule.admission (inj.registry.count e) inj.draws).verdict = .ok false) :
    TurnedAway inj call (.limited e.rule)
  | malformed {e : Experiment} (h : inj.found call = .ok (some e)) {err : LimitError}
      (hl : (e.rule.admission (inj.registry.count e) inj.draws).verdict = .error err) :
    TurnedAway inj call (.failed (some e.rule) err.message)

variable {inj : Injector σ} {call : Call} {e : Experiment} {d : Decision}

theorem Admits.eq_of_found {e' : Experiment} (ha : inj.Admits call e)
    (h : inj.found call = .ok (some e')) : e = e' :=
  Option.some.inj (Except.ok.inj (ha.found.symm.trans h))

theorem TurnedAway.not_admits (h : inj.TurnedAway call d) : ¬ inj.Admits call e := by
  intro ha
  cases h with
  | noCandidate h => cases h.symm.trans ha.found
  | matchingCrashed h => cases h.symm.trans ha.found
  | excluded h hp =>
    obtain rfl := ha.eq_of_found h
    cases hp.symm.trans ha.passed
  | expressionCrashed h hp =>
    obtain rfl := ha.eq_of_found h
    cases hp.symm.trans ha.passed
  | limited h hl =>
    obtain rfl := ha.eq_of_found h
    cases hl.symm.trans ha.granted
  | malformed h hl =>
    obtain rfl := ha.eq_of_found h
    cases hl.symm.trans ha.granted

theorem decision_conclude (inj : Injector σ) (e : Experiment) (reaction : Reaction σ) :
    (inj.conclude e reaction).settle.decision = decided e.rule reaction.ending := by
  obtain ⟨after, ending, host⟩ := reaction
  match ending with
  | .ok (.ok ()) => rfl
  | .ok (.error (.interrupted i)) => rfl
  | .ok (.error (.unsupported action reason)) => rfl
  | .ok (.error (.failed message)) => rfl
  | .error c => rfl

theorem enacted_dispatch (inj : Injector σ) (e : Experiment) (call : Call) :
    Enacted inj.actions inj.host call e (inj.dispatch e call).settle.decision := by
  unfold dispatch
  simp only [Call.target_merge]
  cases hx : inj.actions.resolve? call.target e.rule.action with
  | none => exact .missing hx
  | some x =>
    simp only [decision_conclude]
    exact .ran hx

@[simp] theorem call_settle (a : Attempt σ) : a.settle.call = a.call := by
  unfold Attempt.settle
  cases a.ending <;> rfl

theorem call_conclude (inj : Injector σ) (e : Experiment) (reaction : Reaction σ) :
    (inj.conclude e reaction).call = reaction.call := by
  unfold conclude
  simp only
  split <;> rfl

theorem call_dispatch (h : inj.actions.Every Executor.KeepsCall) (e : Experiment) (call : Call) :
    (inj.dispatch e call).call = call.merge e.rule := by
  unfold dispatch
  simp only
  cases hx : inj.actions.resolve? (call.merge e.rule).target e.rule.action with
  | none => rfl
  | some x =>
    rw [call_conclude]
    exact h _ _ x hx (call.merge e.rule) e.rule inj.host

inductive Course (inj : Injector σ) (call : Call) (a : Attempt σ) : Prop
  | dispatched (e : Experiment) (h : inj.Admits call e) (inj' : Injector σ)
      (hactions : inj'.actions = inj.actions) (hhost : inj'.host = inj.host)
      (ha : a = inj'.dispatch e call)
  | turnedAway (h : inj.TurnedAway call a.settle.decision) (hcall : a.call = call)

theorem course_consider (hf : inj.found call = .ok (some e)) (ps : Patterns) :
    inj.Course call ({ inj with patterns := ps }.consider e call) := by
  unfold consider
  simp only
  cases hp : inj.expressions.pass inj.now e.rule.expressionText? call.arguments with
  | mk passed xs =>
    have hpassed := congrArg Prod.fst hp
    match passed with
    | .ok false => exact .turnedAway (.excluded hf hpassed) rfl
    | .error c => exact .turnedAway (.expressionCrashed hf hpassed) rfl
    | .ok true =>
      simp only [askLimit]
      match hl : (e.rule.admission (inj.registry.count e) inj.draws).verdict with
      | .ok true =>
        refine .dispatched e ⟨hf, hpassed, hl⟩ _ ?_ ?_ rfl
        · rfl
        · rfl
      | .ok false => exact .turnedAway (.limited hf hl) rfl
      | .error err => exact .turnedAway (.malformed hf hl) rfl

theorem course_attempt (inj : Injector σ) (call : Call) :
    inj.Course call (inj.attempt call) := by
  obtain ⟨ps, ha⟩ := inj.attempt_eq call
  rw [ha]
  match hf : inj.found call with
  | .error c => exact .turnedAway (.matchingCrashed hf) rfl
  | .ok none => exact .turnedAway (.noCandidate hf) rfl
  | .ok (some e) => exact course_consider hf ps

theorem mem_invocations_iff {v : Invocation σ} : v ∈ inj.invocations [.call call] ↔
    ∃ e, inj.Admits call e ∧ v ∈ inj.dispatched e call := by
  constructor
  · intro hv
    match hf : inj.found call with
    | .error c =>
      rw [invocations_call, invoked, hf] at hv
      cases hv
    | .ok none =>
      rw [invocations_call, invoked, hf] at hv
      cases hv
    | .ok (some e) =>
      rw [invocations_of_found hf, mem_gate, mem_gate] at hv
      exact ⟨e, ⟨hf, hv.1, hv.2.1⟩, hv.2.2⟩
  · rintro ⟨e, ha, hv⟩
    rw [invocations_of_found ha.found, mem_gate, mem_gate]
    exact ⟨ha.passed, ha.granted, hv⟩

/-- The call is changed exactly if it is admitted, and then its flags are, which the rule overrides.
So it is for whoever called, and for the executor if there is one. Where executors leave the call
alone this is all that becomes of it, also if they fail or crash. -/
theorem overlaid_iff_admitted (h : inj.actions.Every Executor.KeepsCall) (call : Call) :
    let r := inj.inject call
    let ran := inj.invocations [.call call]
    (∀ e, inj.Admits call e →
      Enacted inj.actions inj.host call e r.decision ∧ call.Overlaid e.rule r.call ∧
        ∀ v ∈ ran, v.rule = e.rule ∧ call.Overlaid e.rule v.call) ∧
    ((∀ e, ¬ inj.Admits call e) → inj.TurnedAway call r.decision ∧ r.call = call ∧ ran = []) := by
  intro r ran
  have hcall : r.call = (inj.attempt call).call := call_settle (inj.attempt call)
  constructor
  · intro e he
    have hseen : ∀ v ∈ ran, v.rule = e.rule ∧ call.Overlaid e.rule v.call := by
      intro v hv
      obtain ⟨e', he', hv⟩ := mem_invocations_iff.1 hv
      obtain ⟨-, hvcall, hvrule, -⟩ := mem_dispatched.1 hv
      rw [he.eq_of_found he'.found, hvcall, hvrule]
      exact ⟨rfl, call.overlaid_merge e'.rule⟩
    cases inj.course_attempt call with
    | turnedAway ht hkept => exact absurd he ht.not_admits
    | dispatched e' h' inj' hactions hhost ha =>
      obtain rfl := he.eq_of_found h'.found
      have hdecided := enacted_dispatch inj' e call
      have hmerged := call_dispatch (hactions ▸ h) e call
      rw [hactions, hhost, ← ha] at hdecided
      rw [← ha, ← hcall] at hmerged
      exact ⟨hdecided, hmerged ▸ call.overlaid_merge e.rule, hseen⟩
  · intro hno
    cases inj.course_attempt call with
    | dispatched e h' inj' hactions hhost ha => exact absurd h' (hno e)
    | turnedAway ht hkept =>
      refine ⟨ht, hcall.trans hkept, List.eq_nil_iff_forall_not_mem.2 fun v hv => ?_⟩
      obtain ⟨e, he, -⟩ := mem_invocations_iff.1 hv
      exact hno e he

theorem overlaid_iff_admitted_crashing :
    let breaks : Executor Unit := fun call _ host => ⟨call, .error ⟨some "no"⟩, host⟩
    let r := ({ target := "t", action := "a" } : Rule).withFlag "time" "3000"
    let malformed := (({ r with target := "u" }).withCondition "k" (.str "v")).withCondition
      "effect-count" (.str "x")
    let inj := start 1 1 (ActionTable.empty.withAction "a" breaks)
      (Registry.empty.registerAll [r, malformed]) () (Draws.constant 1)
    let call : Call := {
      target := "t", flags := Dict.ofList [("keep", "me"), ("time", "10")] }
    let other := { call with target := "u" }.withAttribute "k" (.str "V")
    inj.actions.Every Executor.KeepsCall ∧ inj.Admits call ⟨0, r⟩ ∧
      (inj.inject call).call.flags.get? "time" = some "3000" ∧
      (inj.inject call).call.flags.get? "keep" = some "me" ∧
      inj.TurnedAway other (inj.inject other).decision ∧ (inj.inject other).call = other := by
  intro breaks r malformed inj call other
  have hkeeps : inj.actions.Every Executor.KeepsCall :=
    ActionTable.Every.withAction (ActionTable.every_empty _) "a" fun _ _ _ => rfl
  have hcandidates : inj.registry.forTarget "t" = [⟨0, r⟩] ∧
      inj.registry.forTarget "u" = [⟨1, malformed⟩] := by
    change (Registry.empty.registerAll [r, malformed]).forTarget "t" = _ ∧
      (Registry.empty.registerAll [r, malformed]).forTarget "u" = _
    simp only [Registry.registerAll, Registry.forTarget_register]
    exact ⟨rfl, rfl⟩
  have hfound : inj.found call = .ok (some ⟨0, r⟩) := by
    change (Experiment.select _ _ _ (inj.registry.forTarget "t")).1 = _
    rw [hcandidates.1]
    rfl
  have hother : inj.found other = .ok (some ⟨1, malformed⟩) := by
    change (Experiment.select _ _ _ (inj.registry.forTarget "u")).1 = _
    rw [hcandidates.2]
    simp only [inj, other, call, malformed, r]
    rfl
  have hadmits : inj.Admits call ⟨0, r⟩ := ⟨hfound, rfl, rfl⟩
  have hstopped : inj.TurnedAway other (.failed (some malformed) _) := .malformed hother rfl
  obtain ⟨-, hoverlaid, -⟩ := (overlaid_iff_admitted hkeeps call).1 _ hadmits
  obtain ⟨haway, hkept, -⟩ := (overlaid_iff_admitted hkeeps other).2 fun _ => hstopped.not_admits
  refine ⟨hkeeps, hadmits, ?_, ?_, haway, hkept⟩
  · rw [hoverlaid.flags]
    rfl
  · rw [hoverlaid.flags]
    rfl

end Injector
end FaultInjection
