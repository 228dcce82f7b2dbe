import FaultInjection.Matching.Selection
import FaultInjection.Proofs.Registry.Roster
import FaultInjection.Text.Split

namespace FaultInjection

namespace Rule

/-- The parts of the identifier can be told apart; bars in keys and equals signs in values do no
harm. -/
structure Separable (r : Rule) : Prop where
  target : '|' ∉ r.target.toList
  action : '|' ∉ r.action.toList
  key : ∀ a ∈ r.attributes, '=' ∉ a.1.toList
  value : ∀ a ∈ r.attributes, '|' ∉ a.2.toList

structure Agrees (r s : Rule) : Prop where
  target : r.target = s.target
  action : r.action = s.action
  attributes : r.attributes = s.attributes

def attributeChars (as : List (String × String)) : List Char :=
  as.flatMap fun a => a.1.toList ++ '=' :: (a.2.toList ++ ['|'])

theorem attributeChars_cons (a : String × String) (as : List (String × String)) :
    attributeChars (a :: as) = a.1.toList ++ '=' :: (a.2.toList ++ '|' :: attributeChars as) := by
  simp [attributeChars]

theorem toList_joinAttributes (as : List (String × String)) :
    (joinAttributes as).toList ++ ['|'] = '|' :: attributeChars as := by
  induction as with
  | nil => rfl
  | cons a as ih =>
    obtain ⟨key, value⟩ := a
    rw [attributeChars_cons, ← ih]
    simp [joinAttributes]

theorem toList_identifier (r : Rule) :
    r.identifier.toList ++ ['|'] =
      r.target.toList ++ '|' :: (r.action.toList ++ '|' :: attributeChars r.attributes) := by
  rw [← toList_joinAttributes]
  simp [identifier]

theorem attributeChars_inj {as bs : List (String × String)}
    (ha : ∀ a ∈ as, '=' ∉ a.1.toList ∧ '|' ∉ a.2.toList)
    (hb : ∀ b ∈ bs, '=' ∉ b.1.toList ∧ '|' ∉ b.2.toList)
    (h : attributeChars as = attributeChars bs) :
    as = bs := by
  induction as generalizing bs with
  | nil =>
    cases bs with
    | nil => rfl
    | cons b bs => simp [attributeChars] at h
  | cons a as ih =>
    cases bs with
    | nil => simp [attributeChars] at h
    | cons b bs =>
      obtain ⟨⟨hak, hav⟩, has⟩ := List.forall_mem_cons.1 ha
      obtain ⟨⟨hbk, hbv⟩, hbs⟩ := List.forall_mem_cons.1 hb
      rw [attributeChars_cons, attributeChars_cons, Text.append_cons_inj hak hbk,
        Text.append_cons_inj hav hbv] at h
      obtain ⟨hkey, hvalue, hrest⟩ := h
      rw [Prod.ext (String.toList_inj.1 hkey) (String.toList_inj.1 hvalue), ih has hbs hrest]

theorem Agrees.identifier_eq {r s : Rule} (h : r.Agrees s) : r.identifier = s.identifier := by
  rw [identifier, identifier, h.target, h.action, h.attributes]

theorem identifier_eq_iff {r s : Rule} (hr : r.Separable) (hs : s.Separable) :
    r.identifier = s.identifier ↔ r.Agrees s := by
  refine ⟨fun h => ?_, Agrees.identifier_eq⟩
  have hspelled := congrArg (fun id : String => id.toList ++ ['|']) h
  simp only [toList_identifier] at hspelled
  rw [Text.append_cons_inj hr.target hs.target, Text.append_cons_inj hr.action hs.action]
    at hspelled
  obtain ⟨htarget, haction, hattributes⟩ := hspelled
  refine ⟨String.toList_inj.1 htarget, String.toList_inj.1 haction, ?_⟩
  exact attributeChars_inj (fun a ha => ⟨hr.key a ha, hr.value a ha⟩)
    (fun b hb => ⟨hs.key b hb, hs.value b hb⟩) hattributes

theorem mem_unregister_iff {registry : Registry} {e : Experiment} {target : String}
    (he : e ∈ registry.forTarget target) (hid : e.rule.id = none) (key : String) :
    e ∈ (registry.unregister key).2.forTarget target ↔ e.rule.identifier ≠ key := by
  rw [Registry.forTarget_unregister, List.mem_filter, answersTo, hid]
  simp [he]

/-- Identifiers are equal only for rules with the same target, action and attributes. So to take an
experiment away by its identifier takes no other rule with it, and no other rule is shown what was
observed for this one. -/
theorem identifier_unambiguous {r s : Rule} (hr : r.Separable) (hs : s.Separable) :
    (r.identifier = s.identifier ↔ r.Agrees s) ∧
    (∀ (registry : Registry) (e f : Experiment), e.rule = r → f.rule = s →
      r.id = none → s.id = none →
      e ∈ registry.forTarget r.target → f ∈ registry.forTarget s.target →
      ((∀ key, e ∈ (registry.unregister key).2.forTarget r.target ↔
          f ∈ (registry.unregister key).2.forTarget s.target) ↔ r.Agrees s)) ∧
    ∀ (strategy : Strategy) (key : String), strategy.isCustom = true →
      Key.names key Key.businessParams = true →
      ((∀ observed, r.observation strategy key observed = s.observation strategy key observed) ↔
        r.Agrees s) := by
  have hiff := identifier_eq_iff hr hs
  refine ⟨hiff, ?_, ?_⟩
  · rintro registry e f rfl rfl hre hsf he hf
    rw [← hiff]
    simp only [mem_unregister_iff he hre, mem_unregister_iff hf hsf]
    constructor
    · intro h
      have hown := h e.rule.identifier
      simpa [eq_comm] using hown
    · intro h key
      rw [h]
  · intro strategy key hcustom hkey
    rw [← hiff]
    simp only [observation_of_custom hcustom hkey]
    constructor
    · intro h
      -- An observation that was made for the first rule alone shows the two apart.
      have hown := h (.map [(r.identifier, .bool true)])
      by_cases he : r.identifier = s.identifier
      · exact he
      · simp [Value.get?, Value.asMap?, Entries.get?, Ne.symm he] at hown
    · intro h observed
      rw [h]

theorem identifier_unambiguous_flagged :
    let plain : Rule := { target := "t", action := "a" }
    let r := (plain.withCondition "k" (.str "x=1")).withFlag "time" "2"
    let s := (plain.withFlag "time" "2").withFlag "k" "x=1"
    let other := s.withFlag "k" "x"
    let registry := Registry.empty.registerAll [r, s]
    r.Separable ∧ s.Separable ∧ other.Separable ∧ r.Agrees s ∧ ¬ r.Agrees other ∧
      r.identifier = s.identifier ∧ r.identifier ≠ other.identifier ∧
      ∀ key, ⟨0, r⟩ ∈ (registry.unregister key).2.forTarget "t" ↔
        ⟨1, s⟩ ∈ (registry.unregister key).2.forTarget "t" := by
  intro plain r s other registry
  have hr : r.Separable := ⟨by decide, by decide, by decide, by decide⟩
  have hs : s.Separable := ⟨by decide, by decide, by decide, by decide⟩
  have hother : other.Separable := ⟨by decide, by decide, by decide, by decide⟩
  have hagrees : r.Agrees s := ⟨rfl, rfl, rfl⟩
  have hdiffers : ¬ r.Agrees other := fun h => absurd h.attributes (by decide)
  have hlist : registry.forTarget "t" = [⟨0, r⟩, ⟨1, s⟩] := by
    change (Registry.empty.registerAll [r, s]).forTarget "t" = _
    simp only [Registry.registerAll, Registry.forTarget_register]
    rfl
  have hfirst : ⟨0, r⟩ ∈ registry.forTarget "t" := hlist ▸ List.mem_cons_self
  have hsecond : ⟨1, s⟩ ∈ registry.forTarget "t" := by
    rw [hlist]
    exact List.mem_cons_of_mem _ List.mem_cons_self
  obtain ⟨hiff, hunregister, -⟩ := identifier_unambiguous hr hs
  refine ⟨hr, hs, hother, hagrees, hdiffers, hiff.2 hagrees, ?_, ?_⟩
  · exact mt (identifier_unambiguous hr hother).1.1 hdiffers
  · exact (hunregister registry ⟨0, r⟩ ⟨1, s⟩ rfl rfl rfl rfl hfirst hsecond).2 hagrees

end Rule
end FaultInjection
