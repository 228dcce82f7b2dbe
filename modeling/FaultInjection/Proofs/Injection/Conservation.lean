import FaultInjection.Proofs.Injection.Run

namespace FaultInjection

namespace Injector

variable {σ : Type} (inj : Injector σ) (e : Experiment) (call : Call)

def Settles (e : Experiment) (a : Attempt σ) : Prop :=
  a.settle.injector.registry =
    if a.settle.decision.tookEffect then inj.registry else (inj.rollBack e).registry

theorem settles_conclude (reaction : Reaction σ) :
    inj.Settles e (inj.conclude e reaction) := by
  unfold conclude
  simp only
  split <;> rfl

theorem settles_dispatch : inj.Settles e (inj.dispatch e call) := by
  unfold dispatch
  simp only
  split
  · rfl
  · exact settles_conclude inj e _

def Conserves (before : Registry) (e : Experiment) (r : Result σ) : Prop :=
  ∀ f : Experiment, (r.injector.registry.count f).toNat =
    (before.count f).toNat + if e.serial = f.serial ∧ r.decision.tookEffect = true then 1 else 0

variable {inj e}

theorem Conserves.of_kept {before : Registry} {r : Result σ} (hd : r.decision.tookEffect = false)
    (hc : ∀ f, r.injector.registry.count f = before.count f) : Conserves before e r := by
  intro f
  rw [hc f, hd]
  simp

theorem conserves_dispatch {before : Registry} (h : before.count e ≠ Counter.largest)
    (hr : inj.registry = before.setCount e (before.count e + 1)) :
    Conserves before e (inj.dispatch e call).settle := by
  intro f
  have hd := settles_dispatch inj e call
  unfold Settles at hd
  by_cases ht : (inj.dispatch e call).settle.decision.tookEffect = true
  · rw [if_pos ht] at hd
    rw [hd, hr]
    by_cases hs : e.serial = f.serial
    · rw [before.count_congr hs] at h ⊢
      simp [-UInt64.toNat_add, hs, ht, Counter.toNat_succ h]
    · simp [hs]
  · rw [if_neg ht] at hd
    apply Conserves.of_kept (eq_false_of_ne_true ht)
    intro f
    rw [hd, rollBack, hr]
    by_cases hs : e.serial = f.serial
    · rw [before.count_congr hs] at h ⊢
      simp [hs, Counter.decrease_succ h]
    · simp [hs]

theorem conserves_askLimit (h : inj.registry.count e ≠ Counter.largest) :
    Conserves inj.registry e (inj.askLimit e call).settle := by
  unfold askLimit
  simp only
  rcases Limit.count_admission (Limit.of e.rule) (inj.registry.count e) inj.draws with
    ⟨hv, hc⟩ | ⟨hv, hc⟩
  · split
    · exact conserves_dispatch call h (congrArg (inj.registry.setCount e) hc)
    · next hv' => cases hv'.symm.trans hv
    · next hv' => cases hv'.symm.trans hv
  · have hkept : ∀ f, (inj.registry.setCount e (e.rule.admission (inj.registry.count e)
        inj.draws).count).count f = inj.registry.count f := by
      intro f
      by_cases hs : e.serial = f.serial
      · rw [Registry.count_setCount, if_pos hs, ← inj.registry.count_congr hs]
        exact hc
      · simp [hs]
    split
    · next hv' => exact absurd hv' hv
    · exact Conserves.of_kept rfl hkept
    · exact Conserves.of_kept rfl hkept

theorem conserves_consider (h : inj.registry.count e ≠ Counter.largest) :
    Conserves inj.registry e (inj.consider e call).settle := by
  unfold consider
  simp only
  split
  · exact conserves_askLimit call h
  · exact Conserves.of_kept rfl fun _ => rfl
  · exact Conserves.of_kept rfl fun _ => rfl

theorem count_inject
    (h : ∀ e ∈ inj.registry.forTarget call.target, inj.registry.count e ≠ Counter.largest) :
    (inj.inject call).decision.rule? = (inj.attempt call).selected.map (·.rule) ∧
      ∀ f : Experiment, ((inj.inject call).injector.registry.count f).toNat =
        (inj.registry.count f).toNat +
          if (inj.attempt call).selected.map (·.serial) = some f.serial ∧
            (inj.inject call).decision.tookEffect = true then 1 else 0 := by
  unfold inject
  obtain ⟨ps, ha⟩ := inj.attempt_eq call
  rw [ha]
  match hfound : inj.found call with
  | .error c => exact ⟨rfl, fun f => by simp [Attempt.settle]⟩
  | .ok none => exact ⟨rfl, fun f => by simp [Attempt.settle]⟩
  | .ok (some e) =>
    have hc := concerns_consider { inj with patterns := ps } e call
    have hk : Conserves inj.registry e ({ inj with patterns := ps }.consider e call).settle :=
      conserves_consider call (h e (mem_of_found hfound))
    simp only [hc.selected, hc.rule, Option.map_some, Option.some.injEq, true_and]
    exact hk

def SparesCounters (inj : Injector σ) (events : List Event) : Prop :=
  ∀ done call rest, events = done ++ .call call :: rest →
    ∀ e ∈ (inj.run done).registry.forTarget call.target,
      (inj.run done).registry.count e ≠ Counter.largest

theorem SparesCounters.of_prefix {events done : List Event} (h : inj.SparesCounters events)
    (hd : done <+: events) : inj.SparesCounters done := by
  obtain ⟨more, rfl⟩ := hd
  intro before call rest he
  apply h before call (rest ++ more)
  rw [he, List.append_assoc, List.cons_append]

theorem sparesCounters_nil (inj : Injector σ) : inj.SparesCounters [] := by
  intro done call rest he
  simp at he

theorem sparesCounters_cons {event : Event} {events : List Event} :
    inj.SparesCounters (event :: events) ↔
      (∀ call, event = .call call → ∀ e ∈ inj.registry.forTarget call.target,
        inj.registry.count e ≠ Counter.largest) ∧ (inj.after event).SparesCounters events := by
  constructor
  · intro h
    refine ⟨fun call hc => h [] call events (by rw [hc]; rfl), fun done call rest he => ?_⟩
    exact h (event :: done) call rest (by rw [he, List.cons_append])
  · rintro ⟨hnow, hrest⟩ done call rest he
    cases done with
    | nil => exact hnow call (List.cons.inj he).1
    | cons d done =>
      obtain ⟨hd, htail⟩ := List.cons.inj he
      subst hd
      exact hrest done call rest htail

def Entry.isEffectOn (x : Entry σ) (e : Experiment) : Bool :=
  x.selected.map (·.serial) = some e.serial && x.decision.tookEffect

@[simp] theorem registry_upkeep (inj : Injector σ) (u : Upkeep) :
    (inj.upkeep u).registry = inj.registry := by
  cases u <;> rfl

theorem count_run {events : List Event} (h : inj.SparesCounters events) (e : Experiment) :
    ((inj.run events).registry.count e).toNat =
      (inj.registry.count e).toNat + (inj.history events).countP (·.isEffectOn e) := by
  induction events generalizing inj with
  | nil => rfl
  | cons event events ih =>
    obtain ⟨hfree, htail⟩ := sparesCounters_cons.1 h
    have hrest := ih htail
    cases event with
    | call c =>
      have hc := (count_inject c (hfree c rfl)).2 e
      have he : (inj.entry c).isEffectOn e = true ↔
          (inj.attempt c).selected.map (·.serial) = some e.serial ∧
            (inj.inject c).decision.tookEffect = true := by
        simp [Entry.isEffectOn, entry]
      change ((inj.run (.call c :: events)).registry.count e).toNat = _ at hrest
      rw [hrest, history, List.countP_cons, after, hc]
      simp only [he]
      omega
    | upkeep u =>
      rw [after, registry_upkeep] at hrest
      exact hrest

/-- Over a whole run, a call that breaks off is decided like any other, and each count is what it
was at first and one more for every time that the fault of the experiment took effect. -/
theorem counts_conserved {events : List Event} (h : inj.SparesCounters events) :
    (∀ done call rest, events = done ++ .call call :: rest →
      let before := inj.run done
      let a := before.attempt call
      let r := before.inject call
      (∀ c, a.ending = .error c → r.decision = .failed (a.selected.map (·.rule)) c.reason) ∧
        r.decision.rule? = a.selected.map (·.rule) ∧
        ∀ e : Experiment, (r.injector.registry.count e).toNat =
          (before.registry.count e).toNat +
            if a.selected.map (·.serial) = some e.serial ∧ r.decision.tookEffect = true then 1
            else 0) ∧
      ∀ done, done <+: events → ∀ e : Experiment, ((inj.run done).registry.count e).toNat =
        (inj.registry.count e).toNat + (inj.history done).countP (·.isEffectOn e) := by
  constructor
  · intro done call rest he before a r
    obtain ⟨hrule, hcount⟩ := count_inject call (h done call rest he)
    refine ⟨fun c hc => ?_, hrule, hcount⟩
    change a.settle.decision = _
    simp only [Attempt.settle, hc]
  · intro done hd e
    exact count_run (h.of_prefix hd) e

theorem counts_conserved_crash :
    let breaksOnce : Executor Bool := fun call _ broken =>
      ⟨call, if broken then .error ⟨some "no"⟩ else .ok (.ok ()), false⟩
    let inj := new 1 1 (ActionTable.empty.withAction "a" breaksOnce)
      (Registry.empty.register { target := "t", action := "a" }).2 true
    let events : List Event := [.call { target := "t" }, .call { target := "t" }]
    let e : Experiment := ⟨0, { target := "t", action := "a" }⟩
    inj.SparesCounters events ∧ ((inj.run events).registry.count e).toNat =
      (inj.registry.count e).toNat + (inj.history events).countP (·.isEffectOn e) := by
  intro breaksOnce inj events e
  have h : inj.SparesCounters events := by
    refine sparesCounters_cons.2 ⟨fun call hc => ?_, sparesCounters_cons.2 ⟨fun call hc => ?_,
      sparesCounters_nil _⟩⟩
    · cases hc
      decide
    · cases hc
      decide
  exact ⟨h, (counts_conserved h).2 events List.prefix_rfl e⟩

end Injector
end FaultInjection
