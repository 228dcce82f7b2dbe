import FaultInjection.Proofs.Limit.Effective

namespace FaultInjection

namespace Key

variable {key reserved : String}

def reservedKeys : List String := [effectCount, effectPercent, paramExp]

theorem isReserved_eq_any (key : String) : isReserved key = reservedKeys.any (names key) := by
  simp [isReserved, reservedKeys, Bool.or_assoc]

theorem isReserved_eq_false_iff :
    isReserved key = false ↔ ∀ reserved ∈ reservedKeys, names key reserved = false := by
  rw [isReserved_eq_any, List.any_eq_false]
  simp

@[simp] theorem canonical_append (a b : String) :
    canonical (a ++ b) = canonical a ++ canonical b := by
  simp [canonical]

theorem length_canonical_le (a : String) : (canonical a).length ≤ a.length := by
  rw [canonical, List.length_map, ← String.length_toList]
  exact List.length_filter_le _ _

theorem toLower_of_not_ascii {c : Char} (h : 128 ≤ c.toNat) : c.toLower = c := by
  unfold Char.toLower
  apply dif_neg
  intro hu
  have hz : c.toNat ≤ 90 := UInt32.le_iff_toNat_le.1 hu.2
  omega

theorem isSeparator_iff {c : Char} : isSeparator c = true ↔ c.toNat = 45 ∨ c.toNat = 95 := by
  have hcode (d : Char) : c = d ↔ c.toNat = d.toNat := by
    constructor
    · rintro rfl
      rfl
    · intro h
      exact Char.ext (UInt32.toNat_inj.1 h)
  rw [isSeparator, Bool.or_eq_true, decide_eq_true_eq, decide_eq_true_eq, hcode '-', hcode '_']
  rfl

theorem isSeparator_of_not_ascii {c : Char} (h : 128 ≤ c.toNat) : isSeparator c = false := by
  apply eq_false_of_ne_true
  intro hseparator
  have hcode := isSeparator_iff.1 hseparator
  omega

theorem mem_canonical_of_not_ascii {c : Char} (hc : c ∈ key.toList) (h : 128 ≤ c.toNat) :
    c ∈ canonical key := by
  refine List.mem_map.2 ⟨c, List.mem_filter.2 ⟨hc, ?_⟩, toLower_of_not_ascii h⟩
  rw [isSeparator_of_not_ascii h]
  rfl

theorem ascii_of_reserved {c : Char} (hr : reserved ∈ reservedKeys) (hc : c ∈ canonical reserved) :
    c.toNat < 128 := by
  have hall : (reservedKeys.all fun a => (canonical a).all fun d => d.toNat < 128) = true := by
    decide
  exact of_decide_eq_true (List.all_eq_true.1 (List.all_eq_true.1 hall reserved hr) c hc)

theorem isReserved_of_not_ascii (h : ∃ c ∈ key.toList, 128 ≤ c.toNat) : isReserved key = false := by
  obtain ⟨c, hc, hlarge⟩ := h
  apply isReserved_eq_false_iff.2
  intro reserved hr
  apply beq_eq_false_iff_ne.2
  intro hsame
  have hsmall := ascii_of_reserved hr (hsame ▸ mem_canonical_of_not_ascii hc hlarge)
  omega

theorem isReserved_of_one_off {before x y after : String} (hx : x.length ≤ 1) (hy : y.length ≤ 1)
    (hne : canonical x ≠ canonical y) (h : isReserved (before ++ x ++ after) = true) :
    isReserved (before ++ y ++ after) = false := by
  rw [isReserved_eq_any, List.any_eq_true] at h
  obtain ⟨reserved, hr, hn⟩ := h
  apply isReserved_eq_false_iff.2
  intro other ho
  apply beq_eq_false_iff_ne.2
  intro hother
  have hreserved : canonical (before ++ x ++ after) = canonical reserved := eq_of_beq hn
  rw [canonical_append, canonical_append] at hreserved hother
  have hapart : ∀ a ∈ reservedKeys, ∀ b ∈ reservedKeys,
      (canonical a).length ≤ (canonical b).length + 1 →
      (canonical b).length ≤ (canonical a).length + 1 → a = b := by decide
  have hlx := length_canonical_le x
  have hly := length_canonical_le y
  have hlr := congrArg List.length hreserved
  have hlo := congrArg List.length hother
  simp only [List.length_append] at hlr hlo
  obtain rfl := hapart reserved hr other ho (by omega) (by omega)
  exact hne (List.append_cancel_left (List.append_cancel_right (hreserved.trans hother.symm)))

end Key

namespace Rule

variable {r : Rule} {reserved : String}

def Single (r : Rule) : Prop :=
  ∀ reserved ∈ Key.reservedKeys, (r.stated reserved).length ≤ 1

instance (r : Rule) : Decidable r.Single :=
  inferInstanceAs (Decidable (∀ reserved ∈ Key.reservedKeys, (r.stated reserved).length ≤ 1))

theorem Single.congr {s : Rule} (hs : r.Single)
    (h : ∀ reserved ∈ Key.reservedKeys, s.stated reserved = r.stated reserved) : s.Single := by
  intro reserved hr
  rw [h reserved hr]
  exact hs reserved hr

@[simp] theorem entries_withCondition (r : Rule) (key : String) (v : Value) :
    (r.withCondition key v).entries = Entries.insert key v r.entries := by
  unfold entries withCondition
  cases r.conditions <;> rfl

theorem stated_withCondition_of_neg {key : String} (v : Value)
    (hn : Key.names key reserved = false) :
    (r.withCondition key v).stated reserved = r.stated reserved := by
  rw [stated, entries_withCondition]
  exact congrArg _ (Entries.filter_insert_of_neg (p := (Key.names · reserved)) v hn)

theorem stated_withCondition_of_pos {key : String} (v : Value) (hn : Key.names key reserved = true)
    (h : r.stated reserved = []) : (r.withCondition key v).stated reserved = [v] := by
  have hnone : ∀ e ∈ r.entries, Key.names e.1 reserved = false := by
    simpa [stated] using h
  rw [stated, entries_withCondition]
  exact congrArg _ (Entries.filter_insert_of_pos (p := (Key.names · reserved)) v hn hnone)

theorem stated_without_of_pos {key : String} {v : Value} (he : (key, v) ∈ r.entries)
    (hn : Key.names key reserved = true) (hs : (r.stated reserved).length ≤ 1) :
    r.stated reserved = [v] ∧ (r.without key).stated reserved = [] := by
  have hone : (r.entries.filter fun e => Key.names e.1 reserved) = [(key, v)] := by
    have hm : (key, v) ∈ r.entries.filter fun e => Key.names e.1 reserved :=
      List.mem_filter.2 ⟨he, hn⟩
    rw [stated, List.length_map] at hs
    obtain ⟨e, hall⟩ := List.length_eq_one_iff.1
      (Nat.le_antisymm hs (List.length_pos_of_mem hm))
    rw [hall] at hm ⊢
    rw [List.mem_singleton.1 hm]
  constructor
  · rw [stated, hone]
    rfl
  · have hgone : (r.without key).entries.filter (fun e => Key.names e.1 reserved) = [] := by
      rw [entries_without, List.filter_filter]
      simp only [Bool.and_comm]
      rw [← List.filter_filter, hone]
      simp
    rw [stated, hgone]
    rfl

def rename (r : Rule) (key key' : String) : Rule :=
  match Entries.get? key r.entries with
  | some v => (r.without key).withCondition key' v
  | none => r

theorem stated_rename {key key' : String} (hs : (r.stated reserved).length ≤ 1)
    (h : Key.names key reserved = Key.names key' reserved) :
    (r.rename key key').stated reserved = r.stated reserved := by
  unfold rename
  split
  · next v hv =>
    have he := (Entries.get?_eq_some_iff r.entries_sorted).1 hv
    cases hn : Key.names key reserved with
    | false => rw [stated_withCondition_of_neg v (h ▸ hn), stated_without_of_neg hn]
    | true =>
      obtain ⟨hone, hgone⟩ := stated_without_of_pos he hn hs
      rw [stated_withCondition_of_pos v (h ▸ hn) hgone, hone]
  · rfl

inductive Edit
  | rename (key key' : String)
  | put (key : String) (v : Value)
  | drop (key : String)

def Edit.Harmless : Edit → Prop
  | .rename key key' =>
    ∃ reserved ∈ Key.reservedKeys, Key.names key reserved = true ∧ Key.names key' reserved = true
  | .put key _ => Key.isReserved key = false
  | .drop key => Key.isReserved key = false

def edit (r : Rule) : Edit → Rule
  | .rename key key' => r.rename key key'
  | .put key v => r.withCondition key v
  | .drop key => r.without key

def editAll (r : Rule) (edits : List Edit) : Rule :=
  edits.foldl edit r

variable {edits : List Edit}

theorem stated_edit {e : Edit} (hs : r.Single) (he : e.Harmless) (hr : reserved ∈ Key.reservedKeys) :
    (r.edit e).stated reserved = r.stated reserved := by
  cases e with
  | rename key key' =>
    obtain ⟨stem, -, hn, hn'⟩ := he
    apply stated_rename (hs reserved hr)
    rw [Key.names_congr hn, Key.names_congr hn']
  | put key v => exact stated_withCondition_of_neg v (Key.isReserved_eq_false_iff.1 he reserved hr)
  | drop key => exact stated_without_of_neg (Key.isReserved_eq_false_iff.1 he reserved hr)

theorem Single.edit {e : Edit} (hs : r.Single) (he : e.Harmless) : (r.edit e).Single :=
  hs.congr fun _ hr => stated_edit hs he hr

theorem expression_edit (r : Rule) (e : Edit) : (r.edit e).expression = r.expression := by
  cases e with
  | rename key key' =>
    change (r.rename key key').expression = r.expression
    unfold rename
    split <;> rfl
  | put key v => rfl
  | drop key => rfl

theorem stated_editAll (hs : r.Single) (he : ∀ e ∈ edits, e.Harmless)
    (hr : reserved ∈ Key.reservedKeys) :
    (r.editAll edits).stated reserved = r.stated reserved := by
  induction edits generalizing r with
  | nil => rfl
  | cons e edits ih =>
    obtain ⟨hhead, htail⟩ := List.forall_mem_cons.1 he
    calc ((r.edit e).editAll edits).stated reserved
        = (r.edit e).stated reserved := ih (hs.edit hhead) htail
      _ = r.stated reserved := stated_edit hs hhead hr

theorem expression_editAll (r : Rule) (edits : List Edit) :
    (r.editAll edits).expression = r.expression := by
  induction edits generalizing r with
  | nil => rfl
  | cons e edits ih => exact (ih (r.edit e)).trans (expression_edit r e)

theorem condition?_editAll (hs : r.Single) (he : ∀ e ∈ edits, e.Harmless)
    (hr : reserved ∈ Key.reservedKeys) :
    (r.editAll edits).condition? reserved = r.condition? reserved := by
  rw [condition?_eq_head?, condition?_eq_head?, stated_editAll hs he hr]

/-- A rule that states no reserved key twice keeps its limit and its expression, however these keys
are spelled and whatever becomes of the other conditions. The others may come close: a reserved key
with a letter more, less or exchanged is not reserved, nor is one with a letter from outside ASCII.
-/
theorem limit_and_expression_editAll (hs : r.Single) (he : ∀ e ∈ edits, e.Harmless) :
    Limit.of (r.editAll edits) = Limit.of r ∧
    (r.editAll edits).expressionText? = r.expressionText? ∧
    (r.editAll edits).Single ∧
    (∀ before x y after : String, x.length ≤ 1 → y.length ≤ 1 →
      Key.canonical x ≠ Key.canonical y → Key.isReserved (before ++ x ++ after) = true →
      Key.isReserved (before ++ y ++ after) = false) ∧
    ∀ key : String, (∃ c ∈ key.toList, 128 ≤ c.toNat) → Key.isReserved key = false := by
  refine ⟨?_, ?_, ?_, ?_, ?_⟩
  · exact Limit.of_congr (condition?_editAll hs he (by decide)) (condition?_editAll hs he (by decide))
  · rw [expressionText?, expressionText?, expression_editAll,
      condition?_editAll hs he (by decide)]
  · exact hs.congr fun _ hr => stated_editAll hs he hr
  · intro before x y after hx hy hne h
    exact Key.isReserved_of_one_off hx hy hne h
  · intro key h
    exact Key.isReserved_of_not_ascii h

theorem limit_and_expression_editAll_close :
    let r : Rule := {
      target := "t", action := "a"
      conditions := some (Dict.ofList
        [("EFFECT_COUNT", .str "2"), ("effect-counts", .str "9"), ("param-exp", .str "arg0")]) }
    let edits : List Edit := [
      .rename "EFFECT_COUNT" "effectCount", .put "effect-coun" (.str "7"), .drop "effect-counts",
      .put "\u0435ffect-count" (.str "8"), .rename "param-exp" "Param_Exp"]
    r.Single ∧ (∀ e ∈ edits, e.Harmless) ∧
      (r.editAll edits).entries.map (·.1) =
        ["Param_Exp", "effect-coun", "effectCount", "\u0435ffect-count"] ∧
      Limit.of (r.editAll edits) = .ok (.count 2) ∧
      (r.editAll edits).expressionText? = some "arg0" := by
  intro r edits
  have hs : r.Single := by decide
  obtain ⟨-, -, -, hclose, hforeign⟩ :=
    limit_and_expression_editAll hs (List.forall_mem_nil Edit.Harmless)
  have hshort : Key.isReserved "effect-coun" = false :=
    hclose "effect-coun" "t" "" "" (by decide) (by decide) (by decide) (by decide)
  have hlong : Key.isReserved "effect-counts" = false :=
    hclose "effect-count" "" "s" "" (by decide) (by decide) (by decide) (by decide)
  have hcyrillic : Key.isReserved "\u0435ffect-count" = false :=
    hforeign _ ⟨'\u0435', by decide, by decide⟩
  have hcount : (Edit.rename "EFFECT_COUNT" "effectCount").Harmless :=
    ⟨Key.effectCount, by decide, by decide, by decide⟩
  have hexp : (Edit.rename "param-exp" "Param_Exp").Harmless :=
    ⟨Key.paramExp, by decide, by decide, by decide⟩
  have he : ∀ e ∈ edits, e.Harmless := by
    intro e h
    simp only [edits, List.mem_cons, List.not_mem_nil, or_false] at h
    rcases h with rfl | rfl | rfl | rfl | rfl
    · exact hcount
    · exact hshort
    · exact hlong
    · exact hcyrillic
    · exact hexp
  obtain ⟨hlimit, hexpression, -⟩ := limit_and_expression_editAll hs he
  exact ⟨hs, he, rfl, hlimit.trans rfl, hexpression.trans rfl⟩

end Rule
end FaultInjection
