import FaultInjection.Proofs.Matching.Verdict

namespace FaultInjection

theorem Value.isNull_iff (v : Value) : v.isNull = true ↔ v = .null := by
  cases v <;> simp [isNull]

theorem Value.filter_isNull {v : Value} (h : v ≠ .null) :
    (some v).filter (!·.isNull) = some v := by
  have hn := mt v.isNull_iff.1 h
  simp [Option.filter, hn]

theorem Patterns.matchAfresh_iff (text : String) (observed : Value) :
    matchAfresh text observed = true ↔
      ∃ p, compile text = .ok p ∧ p.isMatch observed.render = true := by
  unfold matchAfresh
  cases compile text with
  | ok p => simp
  | error e => simp

def Matcher.form (m : Matcher) (key : String) : String → Value → Except Crash Bool :=
  if Key.isRegex key then m.pattern else m.plain

namespace Rule

variable (r : Rule) (call : Call) {ps : Patterns} {key : String} {expected observed : Value}
  {es : List (String × Value)}

def compared (r : Rule) : List (String × Value) :=
  r.entries.filter fun e => !Key.isReserved e.1

def handed (r : Rule) (key : String) (observed : Value) : Value :=
  if Key.names key Key.businessParams then (observed.get? r.identifier).getD .null else observed

def Suits (key : String) (expected observed : Value) : Prop :=
  match call.matchers.get? key with
  | some m => m.form key expected.render (r.handed key observed) = .ok true
  | none =>
    sameText observed.render expected.render = true ∨
      Key.isRegex key = true ∧
        ∃ p, Patterns.compile expected.render = .ok p ∧ p.isMatch observed.render = true

def Met (key : String) (expected : Value) : Prop :=
  ∃ observed, call.attribute? key = some observed ∧ observed ≠ .null ∧
    r.Suits call key expected observed

def CrashesOn (key : String) (expected : Value) (c : Crash) : Prop :=
  ∃ observed m, call.attribute? key = some observed ∧ observed ≠ .null ∧
    call.matchers.get? key = some m ∧ m.form key expected.render (r.handed key observed) = .error c

theorem judge_custom (m : Matcher) (key : String) (expected observed : Value) :
    (Strategy.of key (some m)).judge expected
        (r.observation (Strategy.of key (some m)) key observed) =
      m.form key expected.render (r.handed key observed) := by
  unfold Strategy.of Matcher.form
  cases Key.isRegex key <;> rfl

theorem judge_plain (key : String) (expected observed : Value) :
    (Strategy.of key none).judge expected (r.observation (Strategy.of key none) key observed) =
      .ok (sameText observed.render expected.render ||
        Key.isRegex key && Patterns.matchAfresh expected.render observed) := by
  unfold Strategy.of
  cases Key.isRegex key with
  | true => rfl
  | false =>
    rw [Bool.false_and, Bool.or_false]
    rfl

theorem judge_eq_true_iff :
    (Strategy.of key (call.matchers.get? key)).judge expected
        (r.observation (Strategy.of key (call.matchers.get? key)) key observed) = .ok true ↔
      r.Suits call key expected observed := by
  unfold Suits
  cases call.matchers.get? key with
  | some m => rw [judge_custom]
  | none => simp [judge_plain, Patterns.matchAfresh_iff]

theorem judge_eq_error_iff {c : Crash} :
    (Strategy.of key (call.matchers.get? key)).judge expected
        (r.observation (Strategy.of key (call.matchers.get? key)) key observed) = .error c ↔
      ∃ m, call.matchers.get? key = some m ∧
        m.form key expected.render (r.handed key observed) = .error c := by
  cases call.matchers.get? key with
  | some m => simp [judge_custom]
  | none => simp [judge_plain]

theorem judgeOne_eq_iff (key : String) (expected : Value) {answer : Except Crash Bool}
    (h : answer ≠ .ok false) :
    r.judgeOne call key expected = answer ↔
      ∃ observed, call.attribute? key = some observed ∧ observed ≠ .null ∧
        (Strategy.of key (call.matchers.get? key)).judge expected
          (r.observation (Strategy.of key (call.matchers.get? key)) key observed) = answer := by
  unfold judgeOne
  cases call.attribute? key with
  | none => simpa using h.symm
  | some v =>
    by_cases hv : v = .null
    · subst hv
      simpa [Option.filter, Value.isNull] using h.symm
    · simp [Value.filter_isNull hv, hv]

theorem judgeOne_eq_true_iff (key : String) (expected : Value) :
    r.judgeOne call key expected = .ok true ↔ r.Met call key expected := by
  have hne : (.ok true : Except Crash Bool) ≠ .ok false := nofun
  rw [judgeOne_eq_iff r call key expected hne]
  simp only [judge_eq_true_iff]
  rfl

theorem judgeOne_eq_error_iff (key : String) (expected : Value) (c : Crash) :
    r.judgeOne call key expected = .error c ↔ r.CrashesOn call key expected c := by
  have hne : (.error c : Except Crash Bool) ≠ .ok false := nofun
  rw [judgeOne_eq_iff r call key expected hne]
  simp only [judge_eq_error_iff]
  constructor
  · rintro ⟨observed, ho, hn, m, hm, hc⟩
    exact ⟨observed, m, ho, hn, hm, hc⟩
  · rintro ⟨observed, m, ho, hn, hm, hc⟩
    exact ⟨observed, ho, hn, m, hm, hc⟩

theorem judgeAll_cons {e : String × Value} (h : Key.isReserved e.1 = false) (checked : Bool) :
    r.judgeAll call checked (e :: es) = (r.judgeOne call e.1 e.2).bind fun met =>
      if met then r.judgeAll call true es else .ok false := by
  obtain ⟨key, expected⟩ := e
  rw [judgeAll, if_neg (ne_true_of_eq_false h)]
  cases r.judgeOne call key expected with
  | error c => rfl
  | ok met => cases met <;> rfl

theorem judgeAll_eq_true_iff (h : ∀ e ∈ es, Key.isReserved e.1 = false) (checked : Bool) :
    r.judgeAll call checked es = .ok true ↔
      (checked = true ∨ es ≠ []) ∧ ∀ e ∈ es, r.Met call e.1 e.2 := by
  induction es generalizing checked with
  | nil => simp [judgeAll]
  | cons e es ih =>
    obtain ⟨he, hes⟩ := List.forall_mem_cons.1 h
    rw [judgeAll_cons r call he, List.forall_mem_cons, ← judgeOne_eq_true_iff r call]
    cases r.judgeOne call e.1 e.2 with
    | error c => simp [Except.bind]
    | ok met =>
      cases met with
      | false => simp [Except.bind]
      | true => simp [Except.bind, ih hes]

theorem judgeAll_eq_error_iff (h : ∀ e ∈ es, Key.isReserved e.1 = false) (checked : Bool)
    {c : Crash} :
    r.judgeAll call checked es = .error c ↔
      ∃ before e behind, es = before ++ e :: behind ∧ (∀ b ∈ before, r.Met call b.1 b.2) ∧
        r.CrashesOn call e.1 e.2 c := by
  induction es generalizing checked with
  | nil => simp [judgeAll]
  | cons d es ih =>
    obtain ⟨hd, hes⟩ := List.forall_mem_cons.1 h
    rw [judgeAll_cons r call hd]
    constructor
    · intro hj
      cases hone : r.judgeOne call d.1 d.2 with
      | error c' =>
        rw [hone] at hj
        obtain rfl : c' = c := Except.error.inj hj
        have hcrash := (judgeOne_eq_error_iff r call d.1 d.2 c').1 hone
        exact ⟨[], d, es, rfl, List.forall_mem_nil _, hcrash⟩
      | ok met =>
        rw [hone] at hj
        cases met with
        | false => cases hj
        | true =>
          obtain ⟨before, e, behind, rfl, hmet, hc⟩ := (ih hes true).1 hj
          have hdmet := (judgeOne_eq_true_iff r call d.1 d.2).1 hone
          exact ⟨d :: before, e, behind, rfl, List.forall_mem_cons.2 ⟨hdmet, hmet⟩, hc⟩
    · rintro ⟨before, e, behind, hsplit, hmet, hc⟩
      cases before with
      | nil =>
        obtain ⟨rfl, rfl⟩ := List.cons.inj hsplit
        rw [(judgeOne_eq_error_iff r call d.1 d.2 c).2 hc]
        rfl
      | cons b before =>
        obtain ⟨rfl, rfl⟩ := List.cons.inj hsplit
        obtain ⟨hb, hbefore⟩ := List.forall_mem_cons.1 hmet
        rw [(judgeOne_eq_true_iff r call d.1 d.2).2 hb]
        exact (ih hes true).2 ⟨before, e, behind, rfl, hbefore, hc⟩

theorem meetsAll_filter (now : Nat) (checked : Bool) (ps : Patterns) (es : List (String × Value)) :
    r.meetsAll now call checked ps (es.filter fun e => !Key.isReserved e.1) =
      r.meetsAll now call checked ps es := by
  induction es generalizing checked ps with
  | nil => rfl
  | cons e es ih =>
    obtain ⟨key, expected⟩ := e
    cases hk : Key.isReserved key with
    | true => simp [meetsAll, hk, ih]
    | false =>
      have hopen : ¬ Key.isReserved key = true := ne_true_of_eq_false hk
      rw [List.filter_cons_of_pos (by simp [hk])]
      simp only [meetsAll, if_neg hopen, ih]

theorem applies_eq_compared (hc : r.conditions ≠ none) (ha : call.attributes ≠ none) (now : Nat)
    (ps : Patterns) : r.applies now call ps = r.meetsAll now call false ps r.compared := by
  obtain ⟨conditions, hc⟩ := Option.ne_none_iff_exists'.1 hc
  obtain ⟨attributes, ha⟩ := Option.ne_none_iff_exists'.1 ha
  simp only [applies, hc, ha, compared, meetsAll_filter, entries]

section

variable {call} {r r' : Rule}

theorem meets_congr {key : String}
    (h : Key.names key Key.businessParams = true → call.matchers.get? key = none) (now : Nat)
    (ps : Patterns) (expected : Value) :
    r'.meets now call ps key expected = r.meets now call ps key expected := by
  have hseen : ∀ observed : Value,
      r'.observation (Strategy.of key (call.matchers.get? key)) key observed =
        r.observation (Strategy.of key (call.matchers.get? key)) key observed := by
    intro observed
    unfold observation
    by_cases hk : Key.names key Key.businessParams = true
    · simp [h hk, Strategy.isCustom_of]
    · simp [hk]
  simp only [meets, hseen]

theorem meetsAll_ext {call' : Call} {now : Nat}
    (h : ∀ e ∈ es, ∀ ps, r'.meets now call' ps e.1 e.2 = r.meets now call ps e.1 e.2)
    (checked : Bool) (ps : Patterns) :
    r'.meetsAll now call' checked ps es = r.meetsAll now call checked ps es := by
  induction es generalizing checked ps with
  | nil => rfl
  | cons e es ih =>
    obtain ⟨key, expected⟩ := e
    obtain ⟨he, hes⟩ := List.forall_mem_cons.1 h
    simp only [meetsAll, he, ih hes]

theorem meetsAll_congr
    (h : ∀ e ∈ es, Key.names e.1 Key.businessParams = true → call.matchers.get? e.1 = none)
    (now : Nat) (checked : Bool) (ps : Patterns) :
    r'.meetsAll now call checked ps es = r.meetsAll now call checked ps es :=
  meetsAll_ext (fun e he ps => meets_congr (h e he) now ps e.2) checked ps

end

/-- A comparison is a conjunction over the conditions that are not reserved. It crashes if a matcher
does on the first of them that is not met. The patterns that are kept from one comparison to the next
play no part, as long as each is what its text says. Rules that share these conditions are alike to a
call that brings no matcher for business parameters. -/
theorem applies_conjunction (r : Rule) (call : Call) (now : Nat) (ps : Patterns) :
    let verdict := (r.applies now call ps).1
    (r.conditions = none → verdict = .ok true) ∧
    (r.conditions ≠ none → call.attributes = none → verdict = .ok false) ∧
    (r.conditions ≠ none → call.attributes ≠ none → ps.Faithful Patterns.compile →
      (r.applies now call ps).2.Faithful Patterns.compile ∧
      (verdict = .ok true ↔ r.compared ≠ [] ∧ ∀ e ∈ r.compared, r.Met call e.1 e.2) ∧
      ∀ c, verdict = .error c ↔
        ∃ before e behind, r.compared = before ++ e :: behind ∧
          (∀ b ∈ before, r.Met call b.1 b.2) ∧ r.CrashesOn call e.1 e.2 c) ∧
    ∀ r' : Rule, r.conditions ≠ none → r'.conditions ≠ none → r'.compared = r.compared →
      (∀ e ∈ r.compared, Key.names e.1 Key.businessParams = true →
        call.matchers.get? e.1 = none) →
      r'.applies now call ps = r.applies now call ps := by
  intro verdict
  refine ⟨?_, ?_, ?_, ?_⟩
  · intro hc
    simp only [verdict, applies, hc]
  · intro hc ha
    obtain ⟨conditions, hc⟩ := Option.ne_none_iff_exists'.1 hc
    simp only [verdict, applies, hc, ha]
  · intro hc ha hf
    have hopen : ∀ e ∈ r.compared, Key.isReserved e.1 = false := by
      intro e he
      simpa using (List.mem_filter.1 he).2
    have hverdict : verdict = r.judgeAll call false r.compared := by
      simp only [verdict, applies_eq_compared r call hc ha]
      exact (r.meetsAll_spec call hf now false r.compared).1
    rw [hverdict]
    refine ⟨(r.applies_spec call hf now).2, ?_, ?_⟩
    · rw [judgeAll_eq_true_iff r call hopen]
      simp
    · intro c
      exact judgeAll_eq_error_iff r call hopen false
  · intro r' hc hc' hshared hbusiness
    cases ha : call.attributes with
    | none =>
      obtain ⟨conditions, hc⟩ := Option.ne_none_iff_exists'.1 hc
      obtain ⟨others, hc'⟩ := Option.ne_none_iff_exists'.1 hc'
      simp only [applies, hc, hc', ha]
    | some attributes =>
      have ha' : call.attributes ≠ none := by
        rw [ha]
        nofun
      rw [applies_eq_compared r' call hc' ha', applies_eq_compared r call hc ha', hshared]
      exact meetsAll_congr hbusiness now false ps

theorem applies_conjunction_crashing :
    let conditions := Dict.ofList
      [("effect-count", .int 1), ("host-regex", .str "aa|bb"), ("user", .str "u")]
    let respelled := Dict.ofList
      [("EFFECT_COUNT", .int 2), ("host-regex", .str "aa|bb"), ("user", .str "u")]
    let r : Rule := { target := "t", action := "a", conditions := some conditions }
    let r' : Rule := { r with conditions := some respelled }
    let call : Call := {
      target := "t"
      attributes := some (Dict.ofList [("host-regex", .str "bb"), ("user", .str "v")])
      matchers := Dict.ofList [("user", ⟨fun _ _ => .error ⟨some "no"⟩, fun _ _ => .ok true⟩)] }
    let ps : Patterns := .empty 1 1 0
    ps.Faithful Patterns.compile ∧
      r.compared = [("host-regex", .str "aa|bb"), ("user", .str "u")] ∧ r'.compared = r.compared ∧
      (r.applies 0 call ps).1 = .error ⟨some "no"⟩ ∧
      r'.applies 0 call ps = r.applies 0 call ps := by
  intro conditions respelled r r' call ps
  have hf : ps.Faithful Patterns.compile := Cache.faithful_empty 1 1 0
  have hcompared : r.compared = [("host-regex", .str "aa|bb"), ("user", .str "u")] := rfl
  have hrespelled : r'.compared = [("host-regex", .str "aa|bb"), ("user", .str "u")] := rfl
  have hshared : r'.compared = r.compared := hrespelled.trans hcompared.symm
  have hhost : r.Met call "host-regex" (.str "aa|bb") := by
    have hmatch : (Pattern.compileWhole? "aa|bb").any (·.isMatch "bb") = true := by decide +kernel
    obtain ⟨p, hp, hmatch⟩ := (Option.any_eq_true _ _).1 hmatch
    have hcompile : Patterns.compile "aa|bb" = .ok p := by simp only [Patterns.compile, hp]
    exact ⟨.str "bb", rfl, nofun, .inr ⟨by decide, p, hcompile, hmatch⟩⟩
  have huser : r.CrashesOn call "user" (.str "u") ⟨some "no"⟩ :=
    ⟨.str "v", ⟨fun _ _ => .error ⟨some "no"⟩, fun _ _ => .ok true⟩, rfl, nofun, rfl, rfl⟩
  obtain ⟨-, -, hverdict, halike⟩ := applies_conjunction r call 0 ps
  refine ⟨hf, hcompared, hshared, ?_, ?_⟩
  · apply ((hverdict nofun nofun hf).2.2 _).2
    exact ⟨[("host-regex", .str "aa|bb")], ("user", .str "u"), [], hcompared,
      fun b hb => List.mem_singleton.1 hb ▸ hhost, huser⟩
  · apply halike r' nofun nofun hshared
    intro e he hk
    rw [hcompared] at he
    simp only [List.mem_cons, List.not_mem_nil, or_false] at he
    rcases he with rfl | rfl
    · rfl
    · exact absurd hk (by decide)

end Rule
end FaultInjection
