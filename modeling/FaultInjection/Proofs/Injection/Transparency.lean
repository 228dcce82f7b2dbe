import FaultInjection.Proofs.Injection.Invocation
import FaultInjection.Proofs.Injection.Simulation

namespace FaultInjection.Injector

variable {σ : Type}

theorem Sound.withLog {inj : Injector σ} (h : inj.Sound) (log : List (Invocation σ)) :
    (inj.withLog log).Sound :=
  ⟨⟨h.faithful.expressions, h.faithful.patterns⟩, h.fair, h.certain⟩

structure Alike (a b : Injector σ) : Prop where
  actions : a.actions = b.actions
  registry : a.registry = b.registry
  host : a.host = b.host

structure Attempt.Alike (x y : Attempt σ) : Prop where
  ending : x.ending = y.ending
  selected : x.selected = y.selected
  admitted : x.admitted = y.admitted
  call : x.call = y.call
  injector : x.injector.Alike y.injector

structure Result.Alike (x y : Result σ) : Prop where
  decision : x.decision = y.decision
  call : x.call = y.call
  injector : x.injector.Alike y.injector

def same : Likeness σ := ⟨Eq, Eq⟩

theorem blurs_same (actions : ActionTable σ) (es : List Experiment) :
    same.Blurs actions es where
  count _ _ h e _ := congrArg (·.count e) h
  setCount _ _ h _ _ _ := by
    cases h
    rfl
  react _ _ x _ call r _ _ h := by
    cases h
    exact ⟨rfl, rfl, rfl⟩

namespace Alike

variable {a b : Injector σ}

theorem refl (a : Injector σ) : a.Alike a :=
  ⟨rfl, rfl, rfl⟩

theorem symm (h : a.Alike b) : b.Alike a :=
  ⟨h.actions.symm, h.registry.symm, h.host.symm⟩

theorem trans {c : Injector σ} (h : a.Alike b) (h' : b.Alike c) : a.Alike c :=
  ⟨h.actions.trans h'.actions, h.registry.trans h'.registry, h.host.trans h'.host⟩

theorem upkeep (h : a.Alike b) (u : Upkeep) : (a.upkeep u).Alike b := by
  cases u <;> exact ⟨h.actions, h.registry, h.host⟩

theorem withLog (h : a.Alike b) (log : List (Invocation σ)) :
    (a.withLog log).Alike (b.withLog log) :=
  ⟨congrArg ActionTable.logged h.actions, h.registry, congrArg (·, log) h.host⟩

theorem likeness (h : a.Alike b) : same.Injectors a b :=
  ⟨h.actions, h.registry, h.host⟩

theorem attempt (h : a.Alike b) (ha : a.Sound) (hb : b.Sound) (call : Call) :
    (a.attempt call).Alike (b.attempt call) := by
  have hr := congrArg (·.forTarget call.target) h.registry
  obtain ⟨hending, hselected, hadmitted, hcall, hinj⟩ :=
    h.likeness.attempt hr (blurs_same _ _) ha hb
  exact ⟨hending, hselected, hadmitted, hcall, hinj.actions, hinj.registry, hinj.host⟩

theorem inject (h : a.Alike b) (ha : a.Sound) (hb : b.Sound) (call : Call) :
    (a.inject call).Alike (b.inject call) := by
  have hr := congrArg (·.forTarget call.target) h.registry
  obtain ⟨hdecision, hcall, hinj⟩ := h.likeness.inject hr (blurs_same _ _) ha hb
  exact ⟨hdecision, hcall, hinj.actions, hinj.registry, hinj.host⟩

theorem entry (h : a.Alike b) (ha : a.Sound) (hb : b.Sound) (call : Call) :
    a.entry call = b.entry call := by
  have hr := h.inject ha hb call
  simp only [Injector.entry, (h.attempt ha hb call).selected, hr.decision, hr.call,
    hr.injector.registry, hr.injector.host]

theorem run_calls (h : a.Alike b) (ha : a.Sound) (hb : b.Sound) (events : List Event) :
    a.history events = b.history ((Event.calls events).map .call) ∧
      (a.run events).Alike (b.run ((Event.calls events).map .call)) := by
  -- only `a` lives through the upkeep, so what is alike is carried along and not the caches
  induction events generalizing a b with
  | nil => exact ⟨rfl, h⟩
  | cons event events ih =>
    cases event with
    | call c =>
      obtain ⟨hhistory, hrun⟩ := ih (h.inject ha hb c).injector (kept_sound.inject ha c)
        (kept_sound.inject hb c)
      refine ⟨?_, hrun⟩
      simp only [history, Event.calls_call, List.map_cons, h.entry ha hb c, hhistory]
    | upkeep u => exact ih (h.upkeep u) (ha.upkeep u) hb

theorem run (h : a.Alike b) (ha : a.Sound) (hb : b.Sound) {events₁ events₂ : List Event}
    (he : Event.calls events₁ = Event.calls events₂) : (a.run events₁).Alike (b.run events₂) := by
  have h₁ := (h.run_calls ha hb events₁).2
  have h₂ := ((refl b).run_calls hb hb events₂).2
  rw [he] at h₁
  exact h₁.trans h₂.symm

theorem invocations_calls (h : a.Alike b) (ha : a.Sound) (hb : b.Sound) (events : List Event) :
    a.invocations events = b.invocations ((Event.calls events).map .call) := by
  obtain ⟨-, hrun⟩ := (h.withLog []).run_calls (ha.withLog []) (hb.withLog []) events
  exact congrArg Prod.snd hrun.host

end Alike

structure Afresh (inj : Injector σ) : Prop where
  pattern : ∀ now text observed,
    (inj.patterns.isMatch now text observed).1 = Patterns.matchAfresh text observed
  search : ∀ now call es,
    (Experiment.select now call inj.patterns es).1 = Experiment.choose call es
  expression : ∀ now text arguments,
    (inj.expressions.pass now text arguments).1 = Expressions.judge text arguments

theorem Faithful.afresh {inj : Injector σ} (h : inj.Faithful) : inj.Afresh where
  pattern := Patterns.isMatch_fst h.patterns
  search now call es := (Experiment.select_spec call h.patterns now es).1
  expression now text arguments := (Expressions.pass_spec h.expressions now text arguments).1

/-- Two injectors over the same registry, with caches of any size and lifetime and with any care for
them between the calls, make the same of the same calls. -/
theorem caches_transparent {registry : Registry} (hr : registry.Certain) {draws₁ draws₂ : Draws}
    (hd₁ : draws₁.Fair) (hd₂ : draws₂.Fair) (ttl₁ capacity₁ ttl₂ capacity₂ : Nat)
    (actions : ActionTable σ) (host : σ) {events₁ events₂ : List Event}
    (he : Event.calls events₁ = Event.calls events₂) :
    let a := start ttl₁ capacity₁ actions registry host draws₁
    let b := start ttl₂ capacity₂ actions registry host draws₂
    a.history events₁ = b.history events₂ ∧ a.invocations events₁ = b.invocations events₂ ∧
      (a.run events₁).Afresh ∧ (b.run events₂).Afresh := by
  intro a b
  have ha : a.Sound := sound_start ttl₁ capacity₁ actions host hr hd₁
  have hb : b.Sound := sound_start ttl₂ capacity₂ actions host hr hd₂
  have hab : a.Alike b := ⟨rfl, rfl, rfl⟩
  refine ⟨?_, ?_, (ha.faithful.run events₁).afresh, (hb.faithful.run events₂).afresh⟩
  · calc a.history events₁ = b.history ((Event.calls events₁).map .call) :=
        (hab.run_calls ha hb events₁).1
      _ = b.history ((Event.calls events₂).map .call) := by rw [he]
      _ = b.history events₂ := ((Alike.refl b).run_calls hb hb events₂).1.symm
  · calc a.invocations events₁ = b.invocations ((Event.calls events₁).map .call) :=
        hab.invocations_calls ha hb events₁
      _ = b.invocations ((Event.calls events₂).map .call) := by rw [he]
      _ = b.invocations events₂ := ((Alike.refl b).invocations_calls hb hb events₂).symm

theorem caches_transparent_purged :
    let r := (({ target := "t", action := "a" } : Rule).withCondition "k" (.str "v.*")).withCondition
      "effect-percent" (.str "100")
    let registry := Registry.empty.registerAll [r]
    let call := ({ target := "t" } : Call).withAttribute "k" (.str "vw")
    let actions : ActionTable Nat :=
      ActionTable.empty.withAction "a" fun call _ n => ⟨call, .ok (.ok ()), n + 1⟩
    let a := start 0 0 actions registry 0 (Draws.constant 1)
    let b := start defaultTtl defaultCapacity actions registry 0 (Draws.constant 100)
    let events : List Event :=
      [.call call, .upkeep (.advance 7), .upkeep .purgePatterns, .call call]
    registry.Certain ∧ (Draws.constant 1).Fair ∧ (Draws.constant 100).Fair ∧
      Event.calls events = Event.calls [.call call, .call call] ∧
      a.history events = b.history [.call call, .call call] := by
  intro r registry call actions a b events
  have hr : registry.Certain := by
    refine Registry.certain_registerAll (fun _ _ he => by cases he) fun _ h share hs => ?_
    obtain rfl := List.mem_singleton.1 h
    have hl : Limit.of r = .ok (.percent 100) := by rfl
    rw [hl] at hs
    cases hs
    exact .inr rfl
  have hd₁ : (Draws.constant 1).Fair := Draws.fair_constant (by decide)
  have hd₂ : (Draws.constant 100).Fair := Draws.fair_constant (by decide)
  have he : Event.calls events = Event.calls [.call call, .call call] := rfl
  obtain ⟨hh, -⟩ := caches_transparent hr hd₁ hd₂ 0 0 defaultTtl defaultCapacity actions 0 he
  exact ⟨hr, hd₁, hd₂, he, hh⟩

end FaultInjection.Injector
