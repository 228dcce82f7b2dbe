import FaultInjection.Conformance.Fixture
import FaultInjection.Proofs.Injection.Transparency

namespace FaultInjection.Conformance

open Injector

namespace Case

def Known (c : Case) : Prop :=
  ∀ m ∈ c.matchers.entries, (matcher? m.2).isSome = true

def once (c : Case) : Case :=
  { c with repetitions := 1 }

def calls (c : Case) : List Call :=
  match c.call with
  | .ok call => List.replicate (c.repetitions - 1 + 1) call
  | .error _ => []

def judge (c : Case) (r : Injector.Result Recording) (experiments : Dict Experiment) : CaseResult :=
  ⟨c.name, c.expect, r.decision.kind, c.mismatches r experiments⟩

structure Met (c : Case) (r : Injector.Result Recording) (experiments : Dict Experiment) :
    Prop where
  decision : r.decision.kind = c.expect
  rule : ∀ id, c.expectRule = some id → r.decision.rule?.bind (·.id) = some id
  flags : ∀ flag ∈ c.expectFlags.entries, r.call.flags.get? flag.1 = some flag.2
  counts : ∀ count ∈ c.counts.entries, ∃ e, experiments.get? count.1 = some e ∧
    (r.injector.registry.count e).toNat = count.2

inductive Plays (experiments : Dict Experiment) :
    Injector Recording → List Case → List CaseResult → Injector Recording → Prop
  | nil {inj : Injector Recording} : Plays experiments inj [] [] inj
  | cons {inj last : Injector Recording} {c : Case} {call : Call} {earlier : List Event}
      {cs : List Case} {results : List CaseResult} (hcall : c.call = .ok call)
      (hearlier : Event.calls earlier = List.replicate (c.repetitions - 1) call)
      (hrest : Plays experiments ((inj.run earlier).inject call).injector cs results last) :
      Plays experiments inj (c :: cs)
        (c.judge ((inj.run earlier).inject call) experiments :: results) last

section Judging

variable {c : Case} {experiments : Dict Experiment}

theorem countMismatch?_eq_none_iff {registry : Registry} {id : String} {n : Nat} :
    countMismatch? registry experiments id n = none ↔
      ∃ e, experiments.get? id = some e ∧ (registry.count e).toNat = n := by
  unfold countMismatch?
  cases experiments.get? id with
  | none => simp
  | some e => simp

theorem passed_judge_iff {r : Injector.Result Recording} :
    (c.judge r experiments).passed = true ↔ c.Met r experiments := by
  simp only [CaseResult.passed, judge, mismatches, List.isEmpty_iff, List.append_eq_nil_iff,
    List.filterMap_eq_nil_iff, countMismatch?_eq_none_iff, ite_eq_left_iff, List.cons_ne_nil,
    reduceCtorEq, imp_false, not_not]
  constructor
  · rintro ⟨⟨⟨hdecision, hrule⟩, hflags⟩, hcounts⟩
    refine ⟨hdecision, ?_, hflags, hcounts⟩
    intro id hid
    simpa [hid] using hrule
  · rintro ⟨hdecision, hrule, hflags, hcounts⟩
    refine ⟨⟨⟨hdecision, ?_⟩, hflags⟩, hcounts⟩
    cases hid : c.expectRule with
    | none => rfl
    | some id => simp [hrule id hid]

theorem judge_congr {x y : Injector.Result Recording} (h : x.Alike y) :
    c.judge x experiments = c.judge y experiments := by
  simp only [judge, mismatches, h.decision, h.call, h.injector.registry]

end Judging

theorem exists_withMatchers (name : String) {ms : List (String × String)}
    (h : ∀ m ∈ ms, (matcher? m.2).isSome = true) (call : Call) :
    ∃ call', withMatchers name call ms = .ok call' := by
  induction ms generalizing call with
  | nil => exact ⟨call, rfl⟩
  | cons m ms ih =>
    obtain ⟨found, hfound⟩ := Option.isSome_iff_exists.1 (h m List.mem_cons_self)
    simp only [withMatchers, hfound]
    exact ih (fun d hd => h d (List.mem_cons_of_mem m hd)) _

theorem Known.exists_call {c : Case} (h : c.Known) : ∃ call, c.call = .ok call :=
  exists_withMatchers c.name h _

theorem known_copies {before after : List Case} {c : Case}
    (h : ∀ d ∈ before ++ c :: after, d.Known) (n : Nat) :
    ∀ d ∈ before ++ (List.replicate n c.once ++ after), d.Known := by
  intro d hd
  simp only [List.mem_append] at hd
  rcases hd with hd | hd | hd
  · exact h d (by simp [hd])
  · obtain rfl := List.eq_of_mem_replicate hd
    exact h c (by simp)
  · exact h d (by simp [hd])

theorem runCall_eq (call : Call) (n : Nat) (inj : Injector Recording) :
    runCall call n inj = (inj.run (List.replicate n (.call call))).inject call := by
  induction n generalizing inj with
  | zero => rfl
  | succ n ih => exact ih _

theorem run_eq {c : Case} {call : Call} (h : c.call = .ok call) (experiments : Dict Experiment)
    (inj : Injector Recording) :
    let r := (inj.run (List.replicate (c.repetitions - 1) (.call call))).inject call
    c.run experiments inj = .ok (c.judge r experiments, r.injector) := by
  simp only [run, h, ← runCall_eq]
  rfl

theorem runAll_cons {c : Case} {experiments : Dict Experiment} {inj inj' : Injector Recording}
    {result : CaseResult} (h : c.run experiments inj = .ok (result, inj')) (cs : List Case) :
    runAll experiments inj (c :: cs) = (runAll experiments inj' cs).map (result :: ·) := by
  rw [runAll, h]
  rfl

variable {experiments : Dict Experiment} {inj a b last last' : Injector Recording}
  {cs ds : List Case} {results results' : List CaseResult}

theorem exists_plays (h : ∀ c ∈ cs, c.Known) (inj : Injector Recording) :
    ∃ results last, runAll experiments inj cs = .ok results ∧
      Plays experiments inj cs results last := by
  induction cs generalizing inj with
  | nil => exact ⟨[], inj, rfl, .nil⟩
  | cons c cs ih =>
    obtain ⟨call, hcall⟩ := (h c List.mem_cons_self).exists_call
    have hrun := run_eq hcall experiments inj
    have hknown : ∀ d ∈ cs, d.Known := fun d hd => h d (List.mem_cons_of_mem c hd)
    obtain ⟨results, last, hruns, hplays⟩ := ih hknown
      ((inj.run (List.replicate (c.repetitions - 1) (.call call))).inject call).injector
    refine ⟨_, last, ?_, .cons hcall (Event.calls_replicate _ _) hplays⟩
    rw [runAll_cons hrun, hruns]
    rfl

namespace Plays

theorem append (h : Plays experiments inj cs results a)
    (h' : Plays experiments a ds results' last) :
    Plays experiments inj (cs ++ ds) (results ++ results') last := by
  induction h with
  | nil => exact h'
  | cons hcall hearlier _ ih => exact .cons hcall hearlier (ih h')

theorem of_append (h : Plays experiments inj (cs ++ ds) results last) :
    ∃ results₁ results₂ mid, results = results₁ ++ results₂ ∧
      Plays experiments inj cs results₁ mid ∧ Plays experiments mid ds results₂ last := by
  induction cs generalizing inj results with
  | nil => exact ⟨[], results, inj, rfl, .nil, h⟩
  | cons c cs ih =>
    cases h with
    | cons hcall hearlier hrest =>
      obtain ⟨results₁, results₂, mid, rfl, h₁, h₂⟩ := ih hrest
      exact ⟨_ :: results₁, results₂, mid, rfl, .cons hcall hearlier h₁, h₂⟩

theorem length_eq (h : Plays experiments inj cs results last) : results.length = cs.length := by
  induction h with
  | nil => rfl
  | cons _ _ _ ih => rw [List.length_cons, ih, List.length_cons]

theorem exists_events (h : Plays experiments inj cs results last) :
    ∃ events, Event.calls events = cs.flatMap calls ∧ inj.run events = last := by
  induction h with
  | nil => exact ⟨[], rfl, rfl⟩
  | @cons inj last c call earlier cs results hcall hearlier _ ih =>
    obtain ⟨events, hevents, rfl⟩ := ih
    refine ⟨earlier ++ .call call :: events, ?_, ?_⟩
    · rw [Event.calls_append, Event.calls_call, hearlier, hevents, List.flatMap_cons]
      simp [calls, hcall, List.replicate_succ']
    · rw [run_append]
      rfl

theorem results_eq (h : Plays experiments a cs results last)
    (h' : Plays experiments b cs results' last') (hab : a.Alike b) (ha : a.Sound) (hb : b.Sound) :
    results = results' := by
  induction h generalizing b results' with
  | nil =>
    cases h'
    rfl
  | @cons a last c call earlier cs results hcall hearlier hrest ih =>
    cases h' with
    | @cons _ _ _ call' earlier' _ results' hcall' hearlier' hrest' =>
      obtain rfl : call = call' := Except.ok.inj (hcall.symm.trans hcall')
      have hae := ha.run earlier
      have hbe := hb.run earlier'
      have hr := (hab.run ha hb (hearlier.trans hearlier'.symm)).inject hae hbe call
      have hresults := ih hrest' hr.injector (kept_sound.inject hae call)
        (kept_sound.inject hbe call)
      rw [judge_congr hr, hresults]

end Plays

theorem plays_copies {c : Case} {call : Call} (hcall : c.call = .ok call) {n : Nat}
    {earlier : List Event} (hearlier : Event.calls earlier = List.replicate n call)
    (inj : Injector Recording) :
    let r := (inj.run earlier).inject call
    ∃ copies, copies.length = n ∧ Plays experiments inj (List.replicate (n + 1) c.once)
      (copies ++ [c.judge r experiments]) r.injector := by
  -- the care between two calls falls to the case that makes the later one
  induction n generalizing inj earlier with
  | zero => exact ⟨[], rfl, .cons hcall hearlier .nil⟩
  | succ n ih =>
    obtain ⟨before, after, rfl, hbefore, hafter⟩ := Event.exists_of_calls_cons hearlier
    obtain ⟨copies, hlength, hplays⟩ := ih hafter ((inj.run before).inject call).injector
    refine ⟨c.judge ((inj.run before).inject call) experiments :: copies, ?_, ?_⟩
    · rw [List.length_cons, hlength]
    · rw [run_append]
      exact .cons hcall hbefore hplays

end Case

namespace Fixture

def opening (rules : List Rule) (draws : Draws) : Injector Recording :=
  start defaultTtl defaultCapacity actionTable (Registry.empty.registerAll rules) [] draws

def experiments (rules : List Rule) : Dict Experiment :=
  (enroll Registry.empty Dict.empty rules).2

def Yields (f : Fixture) (results : List CaseResult) : Prop :=
  ∃ rules draws last, RuleSet.toRules ⟨f.rules⟩ = .ok rules ∧ draws.Fair ∧
    Case.Plays (experiments rules) (opening rules draws) f.cases results last

theorem enroll_fst (registry : Registry) (es : Dict Experiment) (rules : List Rule) :
    (enroll registry es rules).1 = registry.registerAll rules := by
  induction rules generalizing registry es with
  | nil => rfl
  | cons rule rules ih => exact ih _ _

variable {f : Fixture} {rules : List Rule} {draws draws' : Draws}

theorem run_eq_runAll (h : RuleSet.toRules ⟨f.rules⟩ = .ok rules) :
    f.run = Case.runAll (experiments rules) (opening rules (Draws.constant 100)) f.cases := by
  unfold run opening
  rw [h, ← enroll_fst Registry.empty Dict.empty]
  rfl

theorem alike_opening (rules : List Rule) (draws draws' : Draws) :
    (opening rules draws).Alike (opening rules draws') :=
  ⟨rfl, rfl, rfl⟩

theorem sound_opening (hc : ∀ r ∈ rules, r.Certain) (hd : draws.Fair) :
    (opening rules draws).Sound :=
  sound_start _ _ _ _ (Registry.certain_registerAll (fun _ _ he => by cases he) hc) hd

theorem judge_after (hc : ∀ r ∈ rules, r.Certain) (hd : draws.Fair) (hd' : draws'.Fair)
    {es : Dict Experiment} {cases : List Case} {results : List CaseResult}
    {last : Injector Recording} (h : Case.Plays es (opening rules draws) cases results last)
    {own : List Call} {events events' : List Event} (he : Event.calls events = own)
    (he' : Event.calls events' = cases.flatMap Case.calls ++ own) (c : Case) (call : Call) :
    c.judge ((last.run events).inject call) es =
      c.judge (((opening rules draws').run events').inject call) es := by
  obtain ⟨earlier, hearlier, rfl⟩ := h.exists_events
  have hcalls : Event.calls (earlier ++ events) = Event.calls events' := by
    rw [Event.calls_append, hearlier, he, he']
  have hs := sound_opening hc hd
  have hs' := sound_opening hc hd'
  have hrun := (alike_opening rules draws draws').run hs hs' hcalls
  rw [← run_append]
  exact Case.judge_congr (hrun.inject (hs.run _) (hs'.run _) call)

theorem yields_of_plays (hrules : RuleSet.toRules ⟨f.rules⟩ = .ok rules)
    (hc : ∀ r ∈ rules, r.Certain) (hknown : ∀ c ∈ f.cases, c.Known) (hd : draws.Fair)
    {results : List CaseResult} {last : Injector Recording}
    (h : Case.Plays (experiments rules) (opening rules draws) f.cases results last) :
    f.run = .ok results ∧ ∀ results', f.Yields results' ↔ results' = results := by
  have hfair : (Draws.constant 100).Fair := Draws.fair_constant (by decide)
  have hunique {draws' : Draws} {results' : List CaseResult} {last' : Injector Recording}
      (hd' : draws'.Fair)
      (h' : Case.Plays (experiments rules) (opening rules draws') f.cases results' last') :
      results' = results :=
    h'.results_eq h (alike_opening _ _ _) (sound_opening hc hd') (sound_opening hc hd)
  constructor
  · obtain ⟨results', last', hrun, hplays⟩ :=
      Case.exists_plays hknown (opening rules (Draws.constant 100))
    rw [run_eq_runAll hrules, hrun, hunique hfair hplays]
  · intro results'
    constructor
    · rintro ⟨rules', draws', last', hrules', hd', hplays⟩
      obtain rfl : rules = rules' := Except.ok.inj (hrules.symm.trans hrules')
      exact hunique hd' hplays
    · rintro rfl
      exact ⟨rules, draws, last, hrules, hd, h⟩

/-- A case that repeats its call yields what the last of that many cases yields which make it once,
and leaves the same to the cases behind. It is judged on the last of its calls: on the decision, on
the flags of that call alone and on the counts after it. -/
theorem repetition_written_out {before after : List Case} {c : Case}
    (hrules : RuleSet.toRules ⟨f.rules⟩ = .ok rules) (hcertain : ∀ r ∈ rules, r.Certain)
    (hknown : ∀ d ∈ f.cases, d.Known) (hcases : f.cases = before ++ c :: after)
    (hrepeated : 1 ≤ c.repetitions) :
    let written : Fixture :=
      { f with cases := before ++ (List.replicate c.repetitions c.once ++ after) }
    ∃ earlier copies result later call,
      f.run = .ok (earlier ++ result :: later) ∧
      written.run = .ok (earlier ++ (copies ++ result :: later)) ∧
      (∀ results, f.Yields results ↔ results = earlier ++ result :: later) ∧
      (∀ results, written.Yields results ↔ results = earlier ++ (copies ++ result :: later)) ∧
      earlier.length = before.length ∧ copies.length + 1 = c.repetitions ∧
      later.length = after.length ∧ c.call = .ok call ∧
      ∀ draws events, draws.Fair →
        Event.calls events =
          before.flatMap Case.calls ++ List.replicate (c.repetitions - 1) call →
        let r := ((opening rules draws).run events).inject call
        result = c.judge r (experiments rules) ∧
          (result.passed = true ↔ c.Met r (experiments rules)) := by
  intro written
  have hd : (Draws.constant 100).Fair := Draws.fair_constant (by decide)
  obtain ⟨results, last, -, hplays⟩ :=
    Case.exists_plays hknown (opening rules (Draws.constant 100))
  have hfirst := yields_of_plays hrules hcertain hknown hd hplays
  rw [hcases] at hplays
  obtain ⟨earlier, rest, mid, rfl, hbefore, hrest⟩ := hplays.of_append
  cases hrest with
  | @cons _ _ _ call events' _ later hcall hevents' hafter =>
    obtain ⟨copies, hlength, hcopies⟩ := Case.plays_copies hcall hevents' mid
    rw [Nat.sub_add_cancel hrepeated] at hcopies
    have hwritten := hbefore.append (hcopies.append hafter)
    have hsecond := yields_of_plays (f := written) hrules hcertain
      (Case.known_copies (hcases ▸ hknown) c.repetitions) hd hwritten
    rw [List.append_assoc] at hsecond
    refine ⟨earlier, copies, _, later, call, hfirst.1, hsecond.1, hfirst.2, hsecond.2,
      hbefore.length_eq, ?_, hafter.length_eq, hcall, ?_⟩
    · omega
    · intro draws events hdraws hevents r
      rw [judge_after hcertain hd hdraws hbefore hevents' hevents]
      exact ⟨rfl, Case.passed_judge_iff⟩

theorem repetition_written_out_limited :
    let counted : Dict Value := Dict.ofList [(Key.effectCount, .int 1)]
    let shared : Dict Value := Dict.ofList [(Key.effectPercent, .int 100)]
    let first : Rule := ⟨some "first", "t", "record", some counted, none, Dict.ofList [("k", "v")]⟩
    let rest : Rule := ⟨some "rest", "u", "record", some shared, none, Dict.empty⟩
    let plain : Case :=
      ⟨"plain", "u", none, [], Dict.empty, 1, "fired", none, Dict.empty, Dict.empty⟩
    let twice : Case := ⟨"twice", "t", none, [], Dict.ofList [("k", "always")], 2, "limited",
      some "first", Dict.empty, Dict.ofList [("first", 1)]⟩
    let f : Fixture := ⟨"limits", "", [
      ⟨some "first", "t", "record", some (Dict.ofList [(Key.effectCount, .int 1)]), none,
        Dict.ofList [("k", .str "v")]⟩,
      ⟨some "rest", "u", "record", some (Dict.ofList [(Key.effectPercent, .int 100)]), none,
        Dict.empty⟩], [plain, twice, plain]⟩
    RuleSet.toRules ⟨f.rules⟩ = .ok [first, rest] ∧ (∀ r ∈ [first, rest], r.Certain) ∧
      (∀ d ∈ f.cases, d.Known) ∧ 1 ≤ twice.repetitions ∧
      ∃ before copy result behind, f.run = .ok [before, result, behind] ∧
        { f with cases := [plain, twice.once, twice.once, plain] }.run =
          .ok [before, copy, result, behind] ∧
        ∀ results, f.Yields results → results = [before, result, behind] := by
  intro counted shared first rest plain twice f
  have hrules : RuleSet.toRules ⟨f.rules⟩ = .ok [first, rest] := by rfl
  have hcertain : ∀ r ∈ [first, rest], r.Certain := by
    have hfirst : Limit.of first = .ok (.count 1) := by rfl
    have hrest : Limit.of rest = .ok (.percent 100) := by rfl
    intro r hr share hshare
    rcases List.mem_pair.1 hr with rfl | rfl
    · rw [hfirst] at hshare
      cases hshare
    · rw [hrest] at hshare
      cases hshare
      exact .inr rfl
  have hknown : ∀ d ∈ f.cases, d.Known := by
    have hplain : plain.Known := nofun
    have htwice : twice.Known := by
      intro m hm
      obtain rfl := List.mem_singleton.1 hm
      rfl
    simp only [f, List.forall_mem_cons]
    exact ⟨hplain, htwice, hplain, nofun⟩
  have hcases : f.cases = [plain] ++ twice :: [plain] := rfl
  obtain ⟨earlier, copies, result, later, call, hrun, hwritten, hyields, -, hearlier, hcopies,
    hlater, -⟩ := repetition_written_out hrules hcertain hknown hcases (by decide)
  obtain ⟨before, rfl⟩ := List.length_eq_one_iff.1 hearlier
  obtain ⟨behind, rfl⟩ := List.length_eq_one_iff.1 hlater
  obtain ⟨copy, rfl⟩ := List.length_eq_one_iff.1 (Nat.succ.inj hcopies)
  exact ⟨hrules, hcertain, hknown, by decide, before, copy, result, behind, hrun, hwritten,
    fun results => (hyields results).1⟩

end Fixture
end FaultInjection.Conformance
