import FaultInjection.Proofs.Injection.Conservation
import FaultInjection.Proofs.Injection.Simulation
import FaultInjection.Proofs.Registry.Serials

namespace FaultInjection

def Executor.Oblivious {σ : Type} (x : Executor σ) : Prop :=
  ∀ call r h h', (x call r h).call = (x call r h').call ∧ (x call r h).ending = (x call r h').ending

namespace Registry

def only (r : Registry) (target : String) : Registry :=
  { r with groups := r.groups.filter fun t _ => t == target }

theorem forTarget_only (r : Registry) (target t : String) :
    (r.only target).forTarget t = if t = target then r.forTarget t else [] := by
  change ((r.groups.filter fun t _ => t == target).get? t).getD [] =
    if t = target then (r.groups.get? t).getD [] else []
  rw [Dict.get?_filter]
  by_cases ht : t = target
  · cases r.groups.get? t <;> simp [Option.filter, ht]
  · cases r.groups.get? t <;> simp [Option.filter, ht]

theorem certain_only {r : Registry} (h : r.Certain) (target : String) :
    (r.only target).Certain := by
  intro t e he
  rw [forTarget_only] at he
  split at he
  · exact h t e he
  · cases he

end Registry

namespace Injector

variable {σ : Type} {inj : Injector σ} {e f : Experiment}

theorem count_dispatch_of_ne (h : e.serial ≠ f.serial) (call : Call) :
    (inj.dispatch e call).settle.injector.registry.count f = inj.registry.count f := by
  have hs := settles_dispatch inj e call
  unfold Settles at hs
  rw [hs]
  split
  · rfl
  · simp [rollBack, h]

theorem count_askLimit_of_ne (h : e.serial ≠ f.serial) (call : Call) :
    (inj.askLimit e call).settle.injector.registry.count f = inj.registry.count f := by
  have hcount (n : UInt64) : (inj.registry.setCount e n).count f = inj.registry.count f :=
    by simp [h]
  unfold askLimit
  simp only
  split
  · rw [count_dispatch_of_ne h]
    exact hcount _
  · exact hcount _
  · exact hcount _

theorem count_consider_of_ne (h : e.serial ≠ f.serial) (call : Call) :
    (inj.consider e call).settle.injector.registry.count f = inj.registry.count f := by
  unfold consider
  simp only
  split
  · exact count_askLimit_of_ne h call
  · rfl
  · rfl

theorem count_inject_of_ne {call : Call}
    (h : ∀ e ∈ inj.registry.forTarget call.target, e.serial ≠ f.serial) :
    (inj.inject call).injector.registry.count f = inj.registry.count f := by
  unfold inject
  obtain ⟨ps, ha⟩ := inj.attempt_eq call
  rw [ha]
  cases hf : inj.found call with
  | error c => rfl
  | ok found =>
    cases found with
    | none => rfl
    | some e => exact count_consider_of_ne (h e (mem_of_found hf)) call

theorem kept_groups (groups : Dict (List Experiment)) :
    Kept (σ := σ) (·.registry.groups = groups) where
  counts _ _ h := h
  draws _ _ h := h
  host _ h := h
  expressions _ _ h := h
  patterns _ _ h := h

theorem forTarget_inject (inj : Injector σ) (call : Call) (target : String) :
    (inj.inject call).injector.registry.forTarget target = inj.registry.forTarget target := by
  unfold Registry.forTarget
  rw [(kept_groups inj.registry.groups).inject rfl call]

def onCounts (es : List Experiment) : Likeness σ where
  registry r s := ∀ e ∈ es, r.count e = s.count e
  host _ _ := True

theorem blurs_onCounts {actions : ActionTable σ} (h : actions.Every Executor.Oblivious)
    (es : List Experiment) : (onCounts es).Blurs actions es where
  count _ _ h := h
  setCount r s h e he n f hf := by
    simp [h f hf]
  react target action x hx call rule host host' _ := by
    obtain ⟨hcall, hending⟩ := h target action x hx call rule host host'
    exact ⟨hcall, hending, trivial⟩

/-- The experiments of the target are `es`, and no others share their counts. -/
structure Apart (target : String) (es : List Experiment) (inj : Injector σ) : Prop where
  sound : inj.Sound
  oblivious : inj.actions.Every Executor.Oblivious
  candidates : inj.registry.forTarget target = es
  apart : ∀ t, t ≠ target → ∀ e ∈ inj.registry.forTarget t, ∀ f ∈ es, e.serial ≠ f.serial

namespace Apart

variable {target : String} {es : List Experiment} {a b : Injector σ}

theorem inject (h : a.Apart target es) (call : Call) : (a.inject call).injector.Apart target es where
  sound := kept_sound.inject h.sound call
  oblivious := by
    rw [(kept_actions a.actions).inject rfl call]
    exact h.oblivious
  candidates := (forTarget_inject a call target).trans h.candidates
  apart t ht := by
    rw [forTarget_inject]
    exact h.apart t ht

theorem upkeep (h : a.Apart target es) (u : Upkeep) : (a.upkeep u).Apart target es where
  sound := h.sound.upkeep u
  oblivious := by simpa using h.oblivious
  candidates := by simpa using h.candidates
  apart := by simpa using h.apart

theorem inject_own (ha : a.Apart target es) (hb : b.Apart target es)
    (h : (onCounts es).Injectors a b) {call : Call} (hc : call.target = target) :
    (onCounts es).Results (a.inject call) (b.inject call) := by
  subst hc
  apply h.inject (ha.candidates.trans hb.candidates.symm) _ ha.sound hb.sound
  rw [hb.candidates]
  exact blurs_onCounts hb.oblivious es

theorem inject_other (ha : a.Apart target es) (h : (onCounts es).Injectors a b) {call : Call}
    (hc : call.target ≠ target) : (onCounts es).Injectors (a.inject call).injector b where
  actions := (kept_actions a.actions).inject rfl call |>.trans h.actions
  registry f hf := by
    rw [count_inject_of_ne fun e he => ha.apart call.target hc e he f hf]
    exact h.registry f hf
  host := trivial

theorem upkeep_left (h : (onCounts es).Injectors a b) (u : Upkeep) :
    (onCounts es).Injectors (a.upkeep u) b where
  actions := (actions_upkeep a u).trans h.actions
  registry := by simpa using h.registry
  host := trivial

end Apart

def ownCalls (target : String) (events : List Event) : List Call :=
  (Event.calls events).filter fun c => c.target = target

def ownOutcomes (target : String) (outcomes : List Outcome) : List Outcome :=
  outcomes.filter fun o => o.asked.target = target

theorem ownCalls_cons_own {target : String} {call : Call} (h : call.target = target)
    (events : List Event) :
    ownCalls target (.call call :: events) = call :: ownCalls target events :=
  List.filter_cons_of_pos (decide_eq_true h)

theorem ownCalls_cons_other {target : String} {call : Call} (h : call.target ≠ target)
    (events : List Event) : ownCalls target (.call call :: events) = ownCalls target events :=
  List.filter_cons_of_neg fun hd => h (of_decide_eq_true hd)

theorem Apart.run_own {target : String} {es : List Experiment} {a b : Injector σ}
    (ha : a.Apart target es) (hb : b.Apart target es) (h : (onCounts es).Injectors a b)
    (events : List Event) :
    ownOutcomes target (a.outcomes events) = b.outcomes ((ownCalls target events).map .call) ∧
      (onCounts es).Injectors (a.run events) (b.run ((ownCalls target events).map .call)) := by
  -- `b` stands still while `a` is busy for others, so only `a` needs to be kept apart from them
  induction events generalizing a b with
  | nil => exact ⟨rfl, h⟩
  | cons event events ih =>
    cases event with
    | call c =>
      by_cases hc : c.target = target
      · obtain ⟨hdecision, hanswered, hinj⟩ := ha.inject_own hb h hc
        obtain ⟨houtcomes, hrun⟩ := ih (ha.inject c) (hb.inject c) hinj
        have ho : a.outcome c = b.outcome c := by
          rw [outcome, hdecision, hanswered]
          rfl
        rw [ownCalls_cons_own hc]
        refine ⟨?_, hrun⟩
        rw [List.map_cons, outcomes, outcomes, ← houtcomes, ← ho]
        exact List.filter_cons_of_pos (decide_eq_true hc)
      · obtain ⟨houtcomes, hrun⟩ := ih (ha.inject c) hb (ha.inject_other h hc)
        rw [ownCalls_cons_other hc]
        refine ⟨?_, hrun⟩
        rw [← houtcomes]
        exact List.filter_cons_of_neg fun hd => hc (of_decide_eq_true hd)
    | upkeep u => exact ih (ha.upkeep u) hb (Apart.upkeep_left h u)

theorem ownCalls_ownCalls {target : String} {events₁ events₂ : List Event}
    (h : Event.calls events₂ = ownCalls target events₁) :
    ownCalls target events₂ = Event.calls events₂ := by
  apply List.filter_eq_self.2
  intro c hc
  rw [h] at hc
  exact (List.mem_filter.1 hc).2

theorem ownOutcomes_of_ownCalls {target : String} {events : List Event}
    (h : ownCalls target events = Event.calls events) (inj : Injector σ) :
    ownOutcomes target (inj.outcomes events) = inj.outcomes events := by
  apply List.filter_eq_self.2
  intro o ho
  have hmem : o.asked ∈ Event.calls events := by
    rw [← asked_outcomes inj]
    exact List.mem_map_of_mem ho
  exact List.filter_eq_self.1 h o.asked hmem

theorem apart_start {made : List Experiment} {registry : Registry}
    (h : Registry.Reached made registry) (hc : registry.Certain) {actions : ActionTable σ}
    (hx : actions.Every Executor.Oblivious) {draws : Draws} (hd : draws.Fair)
    (ttl capacity : Nat) (host : σ) (target : String) :
    (start ttl capacity actions registry host draws).Apart target (registry.forTarget target) where
  sound := sound_start ttl capacity actions host hc hd
  oblivious := hx
  candidates := rfl
  apart _ ht _ he _ hf hs := ht (h.target_eq he hf hs)

theorem apart_start_only {registry : Registry} (hc : registry.Certain) {actions : ActionTable σ}
    (hx : actions.Every Executor.Oblivious) {draws : Draws} (hd : draws.Fair)
    (ttl capacity : Nat) (host : σ) (target : String) :
    (start ttl capacity actions (registry.only target) host draws).Apart target
      (registry.forTarget target) where
  sound := sound_start ttl capacity actions host (Registry.certain_only hc target) hd
  oblivious := hx
  candidates := (registry.forTarget_only target target).trans (if_pos rfl)
  apart _ ht e he := by
    change e ∈ (registry.only target).forTarget _ at he
    rw [Registry.forTarget_only, if_neg ht] at he
    cases he

/-- What a target gets to see, and the counts that it ends with, are the same with and without the
calls for other targets and the rules that are registered for those. -/
theorem targets_apart {made : List Experiment} {registry : Registry}
    (h : Registry.Reached made registry) (hc : registry.Certain) {actions : ActionTable σ}
    (hx : actions.Every Executor.Oblivious) {draws₁ draws₂ : Draws} (hd₁ : draws₁.Fair)
    (hd₂ : draws₂.Fair) (ttl₁ capacity₁ ttl₂ capacity₂ : Nat) (host₁ host₂ : σ) (target : String)
    {events₁ events₂ : List Event} (he : Event.calls events₂ = ownCalls target events₁) :
    let a := start ttl₁ capacity₁ actions registry host₁ draws₁
    let b := start ttl₂ capacity₂ actions (registry.only target) host₂ draws₂
    ownOutcomes target (a.outcomes events₁) = b.outcomes events₂ ∧
      ∀ e ∈ registry.forTarget target,
        (a.run events₁).registry.count e = (b.run events₂).registry.count e := by
  intro a b
  have ha := apart_start h hc hx hd₁ ttl₁ capacity₁ host₁ target
  have hb := apart_start_only hc hx hd₂ ttl₂ capacity₂ host₂ target
  have hab : (onCounts (registry.forTarget target)).Injectors a b := ⟨rfl, fun _ _ => rfl, trivial⟩
  have hbb : (onCounts (registry.forTarget target)).Injectors b b := ⟨rfl, fun _ _ => rfl, trivial⟩
  have hown := ownCalls_ownCalls he
  obtain ⟨houtcomes, hrun⟩ := ha.run_own hb hab events₁
  obtain ⟨houtcomes', hrun'⟩ := hb.run_own hb hbb events₂
  rw [hown, he] at houtcomes' hrun'
  rw [ownOutcomes_of_ownCalls hown b] at houtcomes'
  refine ⟨houtcomes.trans houtcomes'.symm, fun e he => ?_⟩
  rw [hrun.registry e he, hrun'.registry e he]

theorem targets_apart_crashing :
    let once := ({ target := "t", action := "a" } : Rule).withCondition "effect-count" (.str "1")
    let always : Rule := { target := "u", action := "b" }
    let registry := Registry.empty.registerAll [once, always]
    let counts : Executor Nat := fun call _ n => ⟨call, .ok (.ok ()), n + 1⟩
    let breaks : Executor Nat := fun call _ n => ⟨call, .error ⟨some "no"⟩, n⟩
    let actions := (ActionTable.empty.withAction "a" counts).withAction "b" breaks
    let t := ({ target := "t" } : Call).withAttribute "k" (.int 1)
    let u : Call := { target := "u" }
    let events : List Event :=
      [.call u, .call t, .upkeep (.advance 7), .upkeep .clearPatterns, .call u, .call t]
    let a := start 0 0 actions registry 0 (Draws.constant 1)
    let b := start defaultTtl defaultCapacity actions (registry.only "t") 5 (Draws.constant 100)
    Registry.Reached [⟨0, once⟩, ⟨1, always⟩] registry ∧ registry.Certain ∧
      actions.Every Executor.Oblivious ∧ (Draws.constant 1).Fair ∧ (Draws.constant 100).Fair ∧
      Event.calls [.call t, .call t] = ownCalls "t" events ∧
      ownOutcomes "t" (a.outcomes events) = b.outcomes [.call t, .call t] := by
  intro once always registry counts breaks actions t u events a b
  have h : Registry.Reached [⟨0, once⟩, ⟨1, always⟩] registry :=
    Registry.Reached.empty.registerAll [once, always]
  have hc : registry.Certain := by
    refine Registry.certain_registerAll (fun _ _ he => by cases he) fun r hr share hs => ?_
    have honce : Limit.of once = .ok (.count 1) := by rfl
    have halways : Limit.of always = .ok .unlimited := by rfl
    simp only [List.mem_cons, List.not_mem_nil, or_false] at hr
    rcases hr with rfl | rfl
    · rw [honce] at hs
      cases hs
    · rw [halways] at hs
      cases hs
  have hx : actions.Every Executor.Oblivious :=
    ((ActionTable.every_empty _).withAction "a" fun _ _ _ _ => ⟨rfl, rfl⟩).withAction "b"
      fun _ _ _ _ => ⟨rfl, rfl⟩
  have hd₁ : (Draws.constant 1).Fair := Draws.fair_constant (by decide)
  have hd₂ : (Draws.constant 100).Fair := Draws.fair_constant (by decide)
  have he : Event.calls [.call t, .call t] = ownCalls "t" events := by rfl
  obtain ⟨ho, -⟩ := targets_apart h hc hx hd₁ hd₂ 0 0 defaultTtl defaultCapacity 0 5 "t" he
  exact ⟨h, hc, hx, hd₁, hd₂, he, ho⟩

end Injector
end FaultInjection
