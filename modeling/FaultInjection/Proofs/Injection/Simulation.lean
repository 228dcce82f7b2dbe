import FaultInjection.Proofs.Injection.Run

/-!
Two injectors side by side. How their registries and the states of their hosts have to be alike is
left open; their caches, clocks and draws may differ. If an executor cannot tell the two apart and
nothing is left to the draws, a call that comes to both of them is decided alike and leaves them
alike.
-/
namespace FaultInjection

def Draws.Fair (d : Draws) : Prop :=
  ∀ n, 1 ≤ d.draw n ∧ d.draw n ≤ 100

theorem Draws.fair_constant {n : Nat} (h : 1 ≤ n ∧ n ≤ 100) : (constant n).Fair :=
  fun _ => h

def Rule.Certain (r : Rule) : Prop :=
  ∀ share, Limit.of r = .ok (.percent share) → share = 0 ∨ share = 100

def Registry.Certain (r : Registry) : Prop :=
  ∀ target, ∀ e ∈ r.forTarget target, e.rule.Certain

theorem Registry.certain_registerAll {registry : Registry} (h : registry.Certain)
    {rules : List Rule} (hr : ∀ r ∈ rules, r.Certain) : (registry.registerAll rules).Certain := by
  induction rules generalizing registry with
  | nil => exact h
  | cons r rules ih =>
    refine ih (fun target e he => ?_) fun r' hr' => hr r' (List.mem_cons_of_mem r hr')
    rw [forTarget_register] at he
    split at he
    · rcases List.mem_append.1 he with he | he
      · exact h target e he
      · obtain rfl := List.mem_singleton.1 he
        exact hr r List.mem_cons_self
    · exact h target e he

theorem Draws.Fair.admission {d : Draws} (h : d.Fair) (r : Rule) (count : UInt64) :
    (r.admission count d).draws.Fair := by
  unfold Rule.admission
  match Limit.of r with
  | .error e => exact h
  | .ok .unlimited => exact h
  | .ok (.count bound) => exact h
  | .ok (.percent share) =>
    simp only [Limit.admission]
    split
    · exact h
    · exact h

theorem Rule.Certain.admission {r : Rule} (hr : r.Certain) {d d' : Draws} (hd : d.Fair)
    (hd' : d'.Fair) (count : UInt64) :
    (r.admission count d).verdict = (r.admission count d').verdict ∧
      (r.admission count d).count = (r.admission count d').count := by
  unfold Rule.admission
  match hl : Limit.of r with
  | .error e => exact ⟨rfl, rfl⟩
  | .ok .unlimited => exact ⟨rfl, rfl⟩
  | .ok (.count bound) => exact ⟨rfl, rfl⟩
  | .ok (.percent share) =>
    have h : 1 ≤ d.next.1 ∧ d.next.1 ≤ 100 := hd d.taken
    have h' : 1 ≤ d'.next.1 ∧ d'.next.1 ≤ 100 := hd' d'.taken
    simp only [Limit.admission]
    rcases hr share hl with rfl | rfl
    · have hpos : 0 < d.next.1 := by omega
      have hpos' : 0 < d'.next.1 := by omega
      rw [if_pos hpos, if_pos hpos']
      exact ⟨rfl, rfl⟩
    · have hle : ¬ 100 < d.next.1 := by omega
      have hle' : ¬ 100 < d'.next.1 := by omega
      rw [if_neg hle, if_neg hle']
      exact ⟨rfl, rfl⟩

namespace Injector

variable {σ : Type}

structure Sound (inj : Injector σ) : Prop where
  faithful : inj.Faithful
  fair : inj.draws.Fair
  certain : inj.registry.Certain

theorem kept_sound : Kept (Sound (σ := σ)) where
  counts e n h := ⟨kept_faithful.counts e n h.faithful, h.fair, h.certain⟩
  draws r n h := ⟨kept_faithful.draws r n h.faithful, h.fair.admission r n, h.certain⟩
  host x h := ⟨kept_faithful.host x h.faithful, h.fair, h.certain⟩
  expressions text arguments h :=
    ⟨kept_faithful.expressions text arguments h.faithful, h.fair, h.certain⟩
  patterns call candidates h :=
    ⟨kept_faithful.patterns call candidates h.faithful, h.fair, h.certain⟩

theorem Sound.upkeep {inj : Injector σ} (h : inj.Sound) (u : Upkeep) : (inj.upkeep u).Sound := by
  have hf := h.faithful.upkeep u
  cases u <;> exact ⟨hf, h.fair, h.certain⟩

theorem Sound.run {inj : Injector σ} (h : inj.Sound) (events : List Event) :
    (inj.run events).Sound := by
  induction events generalizing inj with
  | nil => exact h
  | cons event events ih =>
    cases event with
    | call c => exact ih (kept_sound.inject h c)
    | upkeep u => exact ih (h.upkeep u)

theorem sound_start (ttl capacity : Nat) (actions : ActionTable σ) {registry : Registry} (host : σ)
    {draws : Draws} (hr : registry.Certain) (hd : draws.Fair) :
    (start ttl capacity actions registry host draws).Sound :=
  ⟨faithful_start ttl capacity actions registry host draws, hd, hr⟩

structure Likeness (σ : Type) where
  registry : Registry → Registry → Prop
  host : σ → σ → Prop

namespace Likeness

/-- Counts and executors do not tell apart what is alike, as far as `es` are concerned. -/
structure Blurs (l : Likeness σ) (actions : ActionTable σ) (es : List Experiment) : Prop where
  count : ∀ r s, l.registry r s → ∀ e ∈ es, r.count e = s.count e
  setCount : ∀ r s, l.registry r s → ∀ e ∈ es, ∀ n, l.registry (r.setCount e n) (s.setCount e n)
  react : actions.Every fun x => ∀ call r h h', l.host h h' →
    (x call r h).call = (x call r h').call ∧ (x call r h).ending = (x call r h').ending ∧
      l.host (x call r h).host (x call r h').host

structure Injectors (l : Likeness σ) (a b : Injector σ) : Prop where
  actions : a.actions = b.actions
  registry : l.registry a.registry b.registry
  host : l.host a.host b.host

structure Attempts (l : Likeness σ) (x y : Attempt σ) : Prop where
  ending : x.ending = y.ending
  selected : x.selected = y.selected
  admitted : x.admitted = y.admitted
  call : x.call = y.call
  injector : l.Injectors x.injector y.injector

structure Results (l : Likeness σ) (x y : Result σ) : Prop where
  decision : x.decision = y.decision
  call : x.call = y.call
  injector : l.Injectors x.injector y.injector

variable {l : Likeness σ} {a b : Injector σ} {es : List Experiment} {e : Experiment}

theorem Injectors.setCount (h : l.Injectors a b) (hl : l.Blurs b.actions es) (he : e ∈ es)
    (n : UInt64) : l.Injectors { a with registry := a.registry.setCount e n }
      { b with registry := b.registry.setCount e n } :=
  ⟨h.actions, hl.setCount _ _ h.registry e he n, h.host⟩

theorem Injectors.rollBack (h : l.Injectors a b) (hl : l.Blurs b.actions es) (he : e ∈ es) :
    l.Injectors (a.rollBack e) (b.rollBack e) := by
  unfold Injector.rollBack
  rw [hl.count _ _ h.registry e he]
  exact h.setCount hl he _

theorem Injectors.conclude (h : l.Injectors a b) (hl : l.Blurs b.actions es) (he : e ∈ es)
    {reaction reaction' : Reaction σ} (hcall : reaction.call = reaction'.call)
    (hending : reaction.ending = reaction'.ending) (hhost : l.host reaction.host reaction'.host) :
    l.Attempts (a.conclude e reaction) (b.conclude e reaction') := by
  have hleft : l.Injectors { a with host := reaction.host } { b with host := reaction'.host } :=
    ⟨h.actions, h.registry, hhost⟩
  unfold Injector.conclude
  rw [hcall, hending]
  match reaction'.ending with
  | .ok (.ok ()) => exact ⟨rfl, rfl, rfl, rfl, hleft⟩
  | .ok (.error (.interrupted i)) => exact ⟨rfl, rfl, rfl, rfl, hleft⟩
  | .ok (.error (.unsupported action reason)) =>
    exact ⟨rfl, rfl, rfl, rfl, hleft.rollBack hl he⟩
  | .ok (.error (.failed message)) => exact ⟨rfl, rfl, rfl, rfl, hleft.rollBack hl he⟩
  | .error c => exact ⟨rfl, rfl, rfl, rfl, hleft⟩

theorem Injectors.dispatch (h : l.Injectors a b) (hl : l.Blurs b.actions es) (he : e ∈ es)
    (call : Call) : l.Attempts (a.dispatch e call) (b.dispatch e call) := by
  unfold Injector.dispatch
  rw [h.actions]
  simp only
  cases hx : b.actions.resolve? (call.merge e.rule).target e.rule.action with
  | none => exact ⟨rfl, rfl, rfl, rfl, h.rollBack hl he⟩
  | some x =>
    obtain ⟨hcall, hending, hhost⟩ := hl.react _ _ x hx (call.merge e.rule) e.rule _ _ h.host
    exact h.conclude hl he hcall hending hhost

theorem Injectors.askLimit (h : l.Injectors a b) (hl : l.Blurs b.actions es) (ha : a.Sound)
    (hb : b.Sound) (he : e ∈ es) (hc : e.rule.Certain) (call : Call) :
    l.Attempts (a.askLimit e call) (b.askLimit e call) := by
  have hadm := hc.admission ha.fair hb.fair (b.registry.count e)
  unfold Injector.askLimit
  rw [hl.count _ _ h.registry e he]
  generalize e.rule.admission (b.registry.count e) a.draws = x at hadm ⊢
  generalize e.rule.admission (b.registry.count e) b.draws = y at hadm ⊢
  obtain ⟨verdict, count, d⟩ := x
  obtain ⟨verdict', count', d'⟩ := y
  obtain ⟨hv, hn⟩ := hadm
  simp only at hv hn
  subst hv hn
  have hcounted : l.Injectors { a with registry := a.registry.setCount e count, draws := d }
      { b with registry := b.registry.setCount e count, draws := d' } :=
    ⟨h.actions, hl.setCount _ _ h.registry e he count, h.host⟩
  match verdict with
  | .ok true => exact hcounted.dispatch hl he call
  | .ok false => exact ⟨rfl, rfl, rfl, rfl, hcounted⟩
  | .error err => exact ⟨rfl, rfl, rfl, rfl, hcounted⟩

theorem Injectors.consider (h : l.Injectors a b) (hl : l.Blurs b.actions es) (ha : a.Sound)
    (hb : b.Sound) (he : e ∈ es) (hc : e.rule.Certain) (call : Call) :
    l.Attempts (a.consider e call) (b.consider e call) := by
  obtain ⟨hva, -⟩ := Expressions.pass_spec ha.faithful.expressions a.now e.rule.expressionText?
    call.arguments
  obtain ⟨hvb, -⟩ := Expressions.pass_spec hb.faithful.expressions b.now e.rule.expressionText?
    call.arguments
  have hsa := kept_sound.expressions e.rule.expressionText? call.arguments ha
  have hsb := kept_sound.expressions e.rule.expressionText? call.arguments hb
  unfold Injector.consider
  generalize a.expressions.pass a.now e.rule.expressionText? call.arguments = x at hva hsa ⊢
  generalize b.expressions.pass b.now e.rule.expressionText? call.arguments = y at hvb hsb ⊢
  obtain ⟨verdict, xs⟩ := x
  obtain ⟨verdict', ys⟩ := y
  obtain rfl : verdict = verdict' := hva.trans hvb.symm
  have hpassed : l.Injectors { a with expressions := xs } { b with expressions := ys } :=
    ⟨h.actions, h.registry, h.host⟩
  match verdict with
  | .ok true => exact hpassed.askLimit hl hsa hsb he hc call
  | .ok false => exact ⟨rfl, rfl, rfl, rfl, hpassed⟩
  | .error c => exact ⟨rfl, rfl, rfl, rfl, hpassed⟩

theorem Injectors.attemptAmong (h : l.Injectors a b) (hl : l.Blurs b.actions es) (ha : a.Sound)
    (hb : b.Sound) (hc : ∀ e ∈ es, e.rule.Certain) (call : Call) :
    l.Attempts (a.attemptAmong es call) (b.attemptAmong es call) := by
  have hmem : ∀ e, (Experiment.select a.now call a.patterns es).1 = .ok (some e) → e ∈ es :=
    fun _ => Experiment.mem_of_select call
  obtain ⟨hva, -⟩ := Experiment.select_spec call ha.faithful.patterns a.now es
  obtain ⟨hvb, -⟩ := Experiment.select_spec call hb.faithful.patterns b.now es
  have hsa := kept_sound.patterns call es ha
  have hsb := kept_sound.patterns call es hb
  unfold Injector.attemptAmong
  rw [← hva] at hvb
  generalize Experiment.select a.now call a.patterns es = x at hvb hmem hsa ⊢
  generalize Experiment.select b.now call b.patterns es = y at hvb hsb ⊢
  obtain ⟨found, ps⟩ := x
  obtain ⟨found', qs⟩ := y
  -- the patterns that are left differ, but both searches have answered as one without a cache
  obtain rfl : found' = found := hvb
  have hsearched : l.Injectors { a with patterns := ps } { b with patterns := qs } :=
    ⟨h.actions, h.registry, h.host⟩
  match found' with
  | .ok (some e) =>
    have he : e ∈ es := hmem e rfl
    exact hsearched.consider hl hsa hsb he (hc e he) call
  | .ok none => exact ⟨rfl, rfl, rfl, rfl, hsearched⟩
  | .error c => exact ⟨rfl, rfl, rfl, rfl, hsearched⟩

theorem Injectors.attempt (h : l.Injectors a b) {call : Call}
    (hr : a.registry.forTarget call.target = b.registry.forTarget call.target)
    (hl : l.Blurs b.actions (b.registry.forTarget call.target)) (ha : a.Sound) (hb : b.Sound) :
    l.Attempts (a.attempt call) (b.attempt call) := by
  unfold Injector.attempt
  rw [hr]
  exact h.attemptAmong hl ha hb (hb.certain call.target) call

theorem Attempts.settle {x y : Attempt σ} (h : l.Attempts x y)
    (hl : l.Blurs y.injector.actions es) (hy : ∀ e, y.selected = some e → e ∈ es) :
    l.Results x.settle y.settle := by
  obtain ⟨ending, selected, admitted, call, a⟩ := x
  obtain ⟨_, _, _, _, b⟩ := y
  obtain ⟨rfl, rfl, rfl, rfl, hab⟩ := h
  match ending, selected, admitted with
  | .ok d, _, _ => exact ⟨rfl, rfl, hab⟩
  | .error c, none, _ => exact ⟨rfl, rfl, hab⟩
  | .error c, some e, true => exact ⟨rfl, rfl, hab.rollBack hl (hy e rfl)⟩
  | .error c, some e, false => exact ⟨rfl, rfl, hab⟩

theorem Injectors.inject (h : l.Injectors a b) {call : Call}
    (hr : a.registry.forTarget call.target = b.registry.forTarget call.target)
    (hl : l.Blurs b.actions (b.registry.forTarget call.target)) (ha : a.Sound) (hb : b.Sound) :
    l.Results (a.inject call) (b.inject call) := by
  have hactions := (kept_actions b.actions).attempt rfl call
  apply (h.attempt hr hl ha hb).settle
  · rw [hactions]
    exact hl
  · exact fun _ => mem_of_selected

end Likeness
end Injector
end FaultInjection
