import FaultInjection.Matching.Selection
import FaultInjection.Proofs.Cache.Faithful

namespace FaultInjection

variable {ps : Patterns}

namespace Patterns

def matchAfresh (text : String) (observed : Value) : Bool :=
  match compile text with
  | .ok p => p.isMatch observed.render
  | .error _ => false

theorem isMatch_fst (h : ps.Faithful compile) (now : Nat) (text : String) (observed : Value) :
    (ps.isMatch now text observed).1 = matchAfresh text observed := by
  have hc := Cache.getOrCompile_fst h now text
  unfold isMatch matchAfresh
  rw [← hc]
  rcases ps.getOrCompile now text compile with ⟨e | p, qs⟩ <;> rfl

theorem faithful_isMatch (h : ps.Faithful compile) (now : Nat) (text : String) (observed : Value) :
    (ps.isMatch now text observed).2.Faithful compile := by
  have hc := Cache.faithful_getOrCompile h now text
  unfold isMatch
  split
  · next heq =>
    rw [heq] at hc
    exact hc
  · next heq =>
    rw [heq] at hc
    exact hc

end Patterns

namespace Strategy

def judge (s : Strategy) (expected observed : Value) : Except Crash Bool :=
  let text := expected.render
  match s with
  | .text => .ok (sameText observed.render text)
  | .pattern => .ok (sameText observed.render text || Patterns.matchAfresh text observed)
  | .custom m => m.plain text observed
  | .customPattern m => m.pattern text observed

theorem isMatch_fst (s : Strategy) (h : ps.Faithful Patterns.compile) (now : Nat)
    (expected observed : Value) :
    (s.isMatch ps now expected observed).1 = s.judge expected observed := by
  cases s with
  | text => rfl
  | custom m => rfl
  | customPattern m => rfl
  | pattern =>
    have hm := Patterns.isMatch_fst h now expected.render observed
    simp only [isMatch, judge]
    split
    · next hs => rw [hs, Bool.true_or]
    · next hs => rw [hm, eq_false_of_ne_true hs, Bool.false_or]

theorem faithful_isMatch (s : Strategy) (h : ps.Faithful Patterns.compile) (now : Nat)
    (expected observed : Value) :
    (s.isMatch ps now expected observed).2.Faithful Patterns.compile := by
  cases s with
  | text => exact h
  | custom m => exact h
  | customPattern m => exact h
  | pattern =>
    simp only [isMatch]
    split
    · exact h
    · exact Patterns.faithful_isMatch h now expected.render observed

end Strategy

namespace Rule

variable (r : Rule) (call : Call)

def judgeOne (key : String) (expected : Value) : Except Crash Bool :=
  match (call.attribute? key).filter (!·.isNull) with
  | none => .ok false
  | some observed =>
    let s := Strategy.of key (call.matchers.get? key)
    s.judge expected (r.observation s key observed)

def judgeAll : (checked : Bool) → List (String × Value) → Except Crash Bool
  | checked, [] => .ok checked
  | checked, (key, expected) :: es =>
    if Key.isReserved key then judgeAll checked es
    else
      match r.judgeOne call key expected with
      | .ok true => judgeAll true es
      | .ok false => .ok false
      | .error c => .error c

def judge : Except Crash Bool :=
  match r.conditions with
  | none => .ok true
  | some conditions =>
    match call.attributes with
    | none => .ok false
    | some _ => r.judgeAll call false conditions.entries

theorem meets_fst (h : ps.Faithful Patterns.compile) (now : Nat) (key : String)
    (expected : Value) : (r.meets now call ps key expected).1 = r.judgeOne call key expected := by
  unfold meets judgeOne
  cases (call.attribute? key).filter (!·.isNull) with
  | none => rfl
  | some observed => exact Strategy.isMatch_fst _ h now expected _

theorem faithful_meets (h : ps.Faithful Patterns.compile) (now : Nat) (key : String)
    (expected : Value) : (r.meets now call ps key expected).2.Faithful Patterns.compile := by
  unfold meets
  cases (call.attribute? key).filter (!·.isNull) with
  | none => exact h
  | some observed => exact Strategy.faithful_isMatch _ h now expected _

theorem meetsAll_spec (h : ps.Faithful Patterns.compile) (now : Nat) (checked : Bool)
    (es : List (String × Value)) :
    (r.meetsAll now call checked ps es).1 = r.judgeAll call checked es ∧
      (r.meetsAll now call checked ps es).2.Faithful Patterns.compile := by
  induction es generalizing checked ps with
  | nil => exact ⟨rfl, h⟩
  | cons e es ih =>
    obtain ⟨key, expected⟩ := e
    have hv := meets_fst r call h now key expected
    have hf := faithful_meets r call h now key expected
    simp only [meetsAll, judgeAll]
    split
    · exact ih h checked
    · rw [← hv]
      generalize r.meets now call ps key expected = m at hf ⊢
      obtain ⟨c | _ | _, qs⟩ := m
      · exact ⟨rfl, hf⟩
      · exact ⟨rfl, hf⟩
      · exact ih hf true

theorem applies_spec (h : ps.Faithful Patterns.compile) (now : Nat) :
    (r.applies now call ps).1 = r.judge call ∧
      (r.applies now call ps).2.Faithful Patterns.compile := by
  unfold applies judge
  cases r.conditions with
  | none => exact ⟨rfl, h⟩
  | some conditions =>
    cases call.attributes with
    | none => exact ⟨rfl, h⟩
    | some observed => exact meetsAll_spec r call h now false conditions.entries

def weighed (r : Rule) (now : Nat) (call : Call) :
    Patterns → List (String × Value) → List (String × Value × Patterns)
  | _, [] => []
  | ps, (key, expected) :: es =>
    if Key.isReserved key then r.weighed now call ps es
    else
      (key, expected, ps) ::
        match r.meets now call ps key expected with
        | (.ok true, ps) => r.weighed now call ps es
        | _ => []

theorem mem_of_mem_weighed {r : Rule} {now : Nat} {call : Call} {ps qs : Patterns}
    {es : List (String × Value)} {key : String} {expected : Value}
    (h : (key, expected, qs) ∈ r.weighed now call ps es) : (key, expected) ∈ es := by
  induction es generalizing ps with
  | nil => cases h
  | cons e es ih =>
    obtain ⟨k, v⟩ := e
    simp only [weighed] at h
    split at h
    · exact List.mem_cons_of_mem _ (ih h)
    · rcases List.mem_cons.1 h with heq | h
      · cases heq
        exact List.mem_cons_self
      · split at h
        · exact List.mem_cons_of_mem _ (ih h)
        · cases h

theorem faithful_of_mem_weighed {r : Rule} {now : Nat} {call : Call} {ps qs : Patterns}
    (h : ps.Faithful Patterns.compile) {es : List (String × Value)} {key : String}
    {expected : Value} (hm : (key, expected, qs) ∈ r.weighed now call ps es) :
    qs.Faithful Patterns.compile := by
  induction es generalizing ps with
  | nil => cases hm
  | cons e es ih =>
    obtain ⟨k, v⟩ := e
    have hmet := faithful_meets r call h now k v
    simp only [weighed] at hm
    split at hm
    · exact ih h hm
    · rcases List.mem_cons.1 hm with heq | hm
      · cases heq
        exact h
      · generalize r.meets now call ps k v = m at hmet hm
        obtain ⟨c | _ | _, ps'⟩ := m
        · cases hm
        · cases hm
        · exact ih hmet hm

section

variable {now : Nat} {es : List (String × Value)}

theorem weighed_or_decided {e : String × Value} (he : e ∈ es)
    (hopen : Key.isReserved e.1 = false) :
    (∃ qs, (e.1, e.2, qs) ∈ r.weighed now call ps es) ∨
      ∃ w ∈ r.weighed now call ps es, (r.meets now call w.2.2 w.1 w.2.1).1 ≠ .ok true := by
  induction es generalizing ps with
  | nil => cases he
  | cons d es ih =>
    obtain ⟨key, expected⟩ := d
    by_cases hreserved : Key.isReserved key = true
    · rw [weighed, if_pos hreserved]
      rcases List.mem_cons.1 he with rfl | he
      · rw [hopen] at hreserved
        cases hreserved
      · exact ih he
    · rw [weighed, if_neg hreserved]
      rcases List.mem_cons.1 he with rfl | he
      · exact .inl ⟨ps, List.mem_cons_self⟩
      · cases hm : r.meets now call ps key expected with
        | mk answer qs =>
          by_cases hmet : answer = .ok true
          · subst hmet
            rcases @ih qs he with ⟨rs, hrs⟩ | ⟨w, hw, hne⟩
            · exact .inl ⟨rs, List.mem_cons_of_mem _ hrs⟩
            · exact .inr ⟨w, List.mem_cons_of_mem _ hw, hne⟩
          · refine .inr ⟨_, List.mem_cons_self, ?_⟩
            rw [hm]
            exact hmet

theorem met_of_meetsAll {checked : Bool}
    (h : (r.meetsAll now call checked ps es).1 = .ok true) :
    ∀ w ∈ r.weighed now call ps es, (r.meets now call w.2.2 w.1 w.2.1).1 = .ok true := by
  induction es generalizing checked ps with
  | nil => exact nofun
  | cons d es ih =>
    obtain ⟨key, expected⟩ := d
    simp only [meetsAll] at h
    simp only [weighed]
    split at h
    · next hreserved =>
      rw [if_pos hreserved]
      exact ih h
    · next hreserved =>
      rw [if_neg hreserved]
      split at h
      · next qs hm =>
        rw [hm]
        exact List.forall_mem_cons.2 ⟨congrArg Prod.fst hm, ih h⟩
      · cases h
      · cases h

theorem meetsAll_of_applies (h : (r.applies now call ps).1 = .ok true) (hne : r.entries ≠ []) :
    (r.meetsAll now call false ps r.entries).1 = .ok true := by
  unfold applies at h
  unfold entries at hne ⊢
  cases hc : r.conditions with
  | none =>
    rw [hc] at hne
    exact absurd rfl hne
  | some conditions =>
    rw [hc] at h
    cases ha : call.attributes with
    | none =>
      rw [ha] at h
      cases h
    | some attributes =>
      rw [ha] at h
      exact h

end

end Rule

namespace Experiment

variable (call : Call)

theorem mem_of_select {now : Nat} {es : List Experiment} {e : Experiment}
    (h : (select now call ps es).1 = .ok (some e)) : e ∈ es := by
  induction es generalizing ps with
  | nil => cases h
  | cons d es ih =>
    simp only [select] at h
    split at h
    · rw [Option.some.inj (Except.ok.inj h)]
      exact List.mem_cons_self
    · exact List.mem_cons_of_mem d (ih h)
    · cases h

def choose : List Experiment → Except Crash (Option Experiment)
  | [] => .ok none
  | e :: es =>
    match e.rule.judge call with
    | .ok true => .ok (some e)
    | .ok false => choose es
    | .error c => .error c

theorem select_spec (h : ps.Faithful Patterns.compile) (now : Nat) (es : List Experiment) :
    (select now call ps es).1 = choose call es ∧
      (select now call ps es).2.Faithful Patterns.compile := by
  induction es generalizing ps with
  | nil => exact ⟨rfl, h⟩
  | cons e es ih =>
    obtain ⟨hv, hf⟩ := e.rule.applies_spec call h now
    simp only [select, choose]
    rw [← hv]
    generalize e.rule.applies now call ps = a at hf ⊢
    obtain ⟨c | _ | _, qs⟩ := a
    · exact ⟨rfl, hf⟩
    · exact ih hf
    · exact ⟨rfl, hf⟩

theorem choose_append {before : List Experiment}
    (hb : ∀ b ∈ before, b.rule.judge call = .ok false) (es : List Experiment) :
    choose call (before ++ es) = choose call es := by
  induction before with
  | nil => rfl
  | cons b before ih =>
    have hrest := ih fun b' hb' => hb b' (List.mem_cons_of_mem b hb')
    simp only [List.cons_append, choose, hb b List.mem_cons_self, hrest]

theorem select_append {before : List Experiment} {e : Experiment} (h : ps.Faithful Patterns.compile)
    (now : Nat) (hb : ∀ b ∈ before, b.rule.judge call = .ok false)
    (he : e.rule.judge call = .ok true) (behind others : List Experiment) :
    select now call ps (before ++ e :: behind) = select now call ps (before ++ e :: others) := by
  induction before generalizing ps with
  | nil =>
    have hv := (e.rule.applies_spec call h now).1
    rw [he] at hv
    simp only [List.nil_append, select]
    generalize e.rule.applies now call ps = a at hv ⊢
    obtain ⟨v, qs⟩ := a
    rw [show v = .ok true from hv]
  | cons b before ih =>
    obtain ⟨hv, hf⟩ := b.rule.applies_spec call h now
    rw [hb b List.mem_cons_self] at hv
    have hrest := ih hf fun b' hb' => hb b' (List.mem_cons_of_mem b hb')
    simp only [List.cons_append, select]
    generalize b.rule.applies now call ps = a at hv hrest ⊢
    obtain ⟨v, qs⟩ := a
    rw [show v = .ok false from hv]
    exact hrest

def weighed (now : Nat) (call : Call) :
    Patterns → List Experiment → List (Rule × String × Value × Patterns)
  | _, [] => []
  | ps, e :: es =>
    (e.rule.weighed now call ps e.rule.entries).map (e.rule, ·) ++
      match e.rule.applies now call ps with
      | (.ok false, ps) => weighed now call ps es
      | _ => []

theorem of_mem_weighed {now : Nat} {call : Call} {ps qs : Patterns}
    (h : ps.Faithful Patterns.compile) {es : List Experiment} {r : Rule} {key : String}
    {expected : Value} (hm : (r, key, expected, qs) ∈ weighed now call ps es) :
    (key, expected) ∈ r.entries ∧ qs.Faithful Patterns.compile := by
  induction es generalizing ps with
  | nil => cases hm
  | cons e es ih =>
    have hrest := (e.rule.applies_spec call h now).2
    simp only [weighed] at hm
    rcases List.mem_append.1 hm with hm | hm
    · obtain ⟨w, hw, heq⟩ := List.mem_map.1 hm
      cases heq
      exact ⟨Rule.mem_of_mem_weighed hw, Rule.faithful_of_mem_weighed h hw⟩
    · generalize e.rule.applies now call ps = a at hrest hm
      obtain ⟨c | _ | _, ps'⟩ := a
      · cases hm
      · exact ih hrest hm
      · cases hm

end Experiment
end FaultInjection
