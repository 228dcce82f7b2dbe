import FaultInjection.Proofs.Matching.Conjunction

namespace FaultInjection

namespace Rule

/-- Two observations that a matcher for business parameters cannot tell apart: maps with the same
entry for the rule, or with none; or such a map without an entry, and something that is no map. -/
inductive Indistinct (r : Rule) : Value → Value → Prop
  | entry {es fs : List (String × Value)}
      (h : Entries.get? r.identifier es = Entries.get? r.identifier fs) :
      Indistinct r (.map es) (.map fs)
  | absent {es : List (String × Value)} {v : Value} (h : Entries.get? r.identifier es = none)
      (hnull : v ≠ .null) (hmap : v.isMap = false) : Indistinct r (.map es) v

variable {r : Rule} {v w : Value}

theorem Indistinct.ne_null (h : r.Indistinct v w) : v ≠ .null ∧ w ≠ .null := by
  cases h with
  | entry h => exact ⟨nofun, nofun⟩
  | absent h hnull hmap => exact ⟨nofun, hnull⟩

theorem Indistinct.get?_eq (h : r.Indistinct v w) :
    v.get? r.identifier = w.get? r.identifier := by
  cases h with
  | entry h => exact h
  | absent h hnull hmap =>
    rw [Value.get?, Value.asMap?, Option.bind_some, h]
    cases w with
    | map fs => cases hmap
    | null | bool b | int i | float x | str s | list items | foreign f => rfl

end Rule

namespace Call

/-- The calls differ at most in what was observed under keys for business parameters for which they
bring a matcher, and there as `P` allows. -/
structure AlikeBut (P : Value → Value → Prop) (c d : Call) : Prop where
  target : c.target = d.target
  arguments : c.arguments = d.arguments
  matchers : c.matchers = d.matchers
  flags : c.flags = d.flags
  collected : c.attributes = none ↔ d.attributes = none
  observed : ∀ key, c.attribute? key = d.attribute? key ∨
    Key.names key Key.businessParams = true ∧ (c.matchers.get? key).isSome = true ∧
      ∃ v w, c.attribute? key = some v ∧ d.attribute? key = some w ∧ P v w

variable {P : Value → Value → Prop} {c d : Call}

theorem AlikeBut.refl (P : Value → Value → Prop) (c : Call) : c.AlikeBut P c :=
  ⟨rfl, rfl, rfl, rfl, Iff.rfl, fun _ => .inl rfl⟩

theorem AlikeBut.withAttribute (h : c.AlikeBut P d) {key : String}
    (hk : Key.names key Key.businessParams = true) (hm : (c.matchers.get? key).isSome = true)
    {v w : Value} (hp : P v w) : (c.withAttribute key v).AlikeBut P (d.withAttribute key w) where
  target := h.target
  arguments := h.arguments
  matchers := h.matchers
  flags := h.flags
  collected := iff_of_false nofun nofun
  observed key' := by
    by_cases he : key' = key
    · subst he
      exact .inr ⟨hk, hm, v, w, by simp, by simp, hp⟩
    · simpa [he] using h.observed key'

end Call

namespace Rule

variable {r : Rule} {c d : Call}

theorem meets_eq_of_alikeBut (h : c.AlikeBut r.Indistinct d) (now : Nat) (ps : Patterns)
    (key : String) (expected : Value) :
    r.meets now c ps key expected = r.meets now d ps key expected := by
  unfold meets
  rw [← h.matchers]
  rcases h.observed key with he | ⟨hk, hm, v, w, hv, hw, hp⟩
  · rw [he]
  · have hcustom : (Strategy.of key (c.matchers.get? key)).isCustom = true := by
      rw [Strategy.isCustom_of, hm]
    obtain ⟨hvnull, hwnull⟩ := hp.ne_null
    rw [hv, hw, Value.filter_isNull hvnull, Value.filter_isNull hwnull]
    simp only [observation_of_custom hcustom hk, hp.get?_eq]

theorem applies_eq_of_alikeBut (r : Rule) {c d : Call} (h : c.AlikeBut r.Indistinct d) (now : Nat)
    (ps : Patterns) : r.applies now c ps = r.applies now d ps := by
  unfold applies
  cases r.conditions with
  | none => rfl
  | some conditions =>
    cases hc : c.attributes with
    | none => rw [h.collected.1 hc]
    | some attributes =>
      have hd : d.attributes ≠ none := by
        intro hd
        rw [h.collected.2 hd] at hc
        cases hc
      obtain ⟨others, hd⟩ := Option.ne_none_iff_exists'.1 hd
      rw [hd]
      exact meetsAll_ext (fun e _ ps => meets_eq_of_alikeBut h now ps e.1 e.2) false ps

theorem applies_eq_of_alikeBut_respelled :
    let conditions := Dict.ofList
      [("BusinessParams", .str "null"), ("business-params", .str "gold"), ("user", .str "u")]
    let r : Rule := { target := "t", action := "a", conditions := some conditions }
    let reads : Matcher := ⟨fun text v => .ok (text == v.render), fun _ _ => .error ⟨none⟩⟩
    let base : Call := {
      target := "t"
      attributes := some (Dict.ofList [("user", .str "U")])
      matchers := Dict.ofList [("BusinessParams", reads), ("business-params", reads)] }
    let c := (base.withAttribute "business-params" (.map [(r.identifier, .str "gold")])).withAttribute
      "BusinessParams" (.map [("t|b", .str "gold")])
    let d := (base.withAttribute "business-params"
      (.map [(r.identifier, .str "gold"), ("t|b", .int 1)])).withAttribute "BusinessParams"
      (.str "gold")
    let ps : Patterns := .empty 1 1 0
    c.AlikeBut r.Indistinct d ∧ (r.applies 0 d ps).1 = .ok true ∧ (r.applies 0 c ps).1 = .ok true := by
  intro conditions r reads base c d ps
  have halike : c.AlikeBut r.Indistinct d := by
    apply Call.AlikeBut.withAttribute
    · apply Call.AlikeBut.withAttribute
      · exact Call.AlikeBut.refl _ base
      · decide
      · simp only [base, reads]
        rfl
      · apply Indistinct.entry
        simp [Entries.get?]
    · decide
    · simp only [base, reads]
      rfl
    · apply Indistinct.absent
      · rfl
      · intro hn
        cases hn
      · rfl
  have hd : (r.applies 0 d ps).1 = .ok true := by
    simp only [r, d, base, conditions, reads, ps]
    rfl
  refine ⟨halike, hd, ?_⟩
  rw [applies_eq_of_alikeBut r halike]
  exact hd

end Rule
end FaultInjection
