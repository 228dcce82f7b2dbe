import FaultInjection.Conformance.Matchers

namespace FaultInjection.Conformance

def itemHolds (observed : List (String × Value)) (item : List Char) : Bool :=
  (Text.trimChars item).isEmpty || hasPair observed (Text.trimChars item)

def verdict (text : String) (observed : Value) : Bool :=
  observed.asMap?.any fun entries => (Text.splitAll ',' text.toList).all (itemHolds entries)

theorem plain_subset (text : String) (observed : Value) :
    subset.plain text observed = .ok (verdict text observed) := by
  change Except.ok _ = Except.ok _
  unfold verdict
  cases observed.asMap? with
  | none => rfl
  | some entries =>
    simp only [List.all_filter, List.all_map, Bool.not_not]
    rfl

theorem plain_subset_iff {text : String} {observed : Value} :
    subset.plain text observed = .ok true ↔ verdict text observed = true := by
  rw [plain_subset, Except.ok.injEq]

theorem verdict_append (a b : String) (observed : Value) :
    verdict (a ++ "," ++ b) observed = (verdict a observed && verdict b observed) := by
  unfold verdict
  cases observed.asMap? with
  | none => rfl
  | some entries =>
    have hsplit : Text.splitAll ',' (a ++ "," ++ b).toList =
        Text.splitAll ',' a.toList ++ Text.splitAll ',' b.toList := by
      rw [← Text.splitAll_append]
      simp
    simp only [Option.any_some, hsplit, List.all_append]

section

variable {entries entries' : List (String × Value)}

theorem equals_not_space : Text.isSpace '=' = false := by
  decide

theorem toList_pair (key text : String) :
    (key ++ "=" ++ text).toList = key.toList ++ '=' :: text.toList := by
  simp

theorem itemHolds_pair {key text : String} (h : '=' ∉ key.toList) :
    itemHolds entries (key ++ "=" ++ text).toList =
      (Entries.get? (Text.trim key) entries).any fun w => w.render == Text.trim text := by
  have hkey : '=' ∉ Text.trimStart key.toList := fun hc =>
    h ((List.dropWhile_sublist _).subset hc)
  unfold itemHolds hasPair
  rw [toList_pair, Text.trimChars_append_cons equals_not_space, Text.splitFirst?_append hkey]
  simp only [Text.trimChars_trimStart, Text.trimChars_trimEnd]
  simp [Text.trim]

theorem itemHolds_of_no_equals {item : List Char} (h : '=' ∉ item) :
    itemHolds entries item = (Text.trimChars item).isEmpty := by
  have htrim : '=' ∉ Text.trimChars item := by
    obtain ⟨before, after, hitem, -, -⟩ := Text.eq_spaces_append_trimChars item
    rw [hitem] at h
    simp only [List.mem_append, not_or] at h
    exact h.2.1
  unfold itemHolds hasPair
  rw [Text.splitFirst?_eq_none_iff.2 htrim, Bool.or_false]

theorem itemHolds_iff {item : String} : itemHolds entries item.toList = true ↔
    Text.isBlank item = true ∨ ∃ key text w, item = key ++ "=" ++ text ∧ '=' ∉ key.toList ∧
      Entries.get? (Text.trim key) entries = some w ∧ w.render = Text.trim text := by
  by_cases hequals : '=' ∈ item.toList
  · obtain ⟨key, text, hcut, hkey⟩ := Text.exists_cut hequals
    obtain rfl : item = key ++ "=" ++ text := String.toList_inj.1 (hcut.trans (toList_pair _ _).symm)
    rw [itemHolds_pair hkey, Option.any_eq_true]
    constructor
    · rintro ⟨w, hw, hr⟩
      exact .inr ⟨key, text, w, rfl, hkey, hw, beq_iff_eq.1 hr⟩
    · rintro (h | ⟨key', text', w, heq, hkey', hw, hr⟩)
      · have hspace := List.all_eq_true.1 h '=' hequals
        rw [equals_not_space] at hspace
        cases hspace
      · rw [← String.toList_inj, toList_pair, toList_pair, Text.append_cons_inj hkey hkey',
          String.toList_inj, String.toList_inj] at heq
        obtain ⟨rfl, rfl⟩ := heq
        exact ⟨w, hw, beq_iff_eq.2 hr⟩
  · rw [itemHolds_of_no_equals hequals, List.isEmpty_iff, Text.trimChars_eq_nil_iff,
      ← List.all_eq_true]
    constructor
    · exact .inl
    · rintro (h | ⟨key, text, w, rfl, -⟩)
      · exact h
      · rw [toList_pair] at hequals
        exact absurd (List.mem_append_right _ List.mem_cons_self) hequals

theorem itemHolds_mono
    (h : ∀ k v, Entries.get? k entries = some v → Entries.get? k entries' = some v)
    {item : String} (hi : itemHolds entries item.toList = true) :
    itemHolds entries' item.toList = true := by
  rcases itemHolds_iff.1 hi with hspaces | ⟨key, text, w, hitem, hkey, hw, hr⟩
  · exact itemHolds_iff.2 (.inl hspaces)
  · exact itemHolds_iff.2 (.inr ⟨key, text, w, hitem, hkey, h _ w hw, hr⟩)

theorem verdict_item {item : String} (h : ',' ∉ item.toList) :
    verdict item (.map entries) = itemHolds entries item.toList := by
  simp [verdict, Value.asMap?, Text.splitAll_of_not_mem h]

theorem verdict_blank {item : String} (h : Text.isBlank item = true) :
    verdict item (.map entries) = true := by
  have hcomma : ',' ∉ item.toList := fun hc => nomatch List.all_eq_true.1 h ',' hc
  rw [verdict_item hcomma]
  exact itemHolds_iff.2 (.inl h)

theorem verdict_intercalate (items : List String) :
    verdict (",".intercalate items) (.map entries) =
      items.all fun item => verdict item (.map entries) := by
  induction items with
  | nil => exact verdict_blank (by decide)
  | cons item items ih =>
    cases items with
    | nil => simp
    | cons next items =>
      rw [String.intercalate_cons_cons, verdict_append, ih]
      rfl

theorem verdict_congr {items items' : List String}
    (h : ∀ s, Text.isBlank s = false → (s ∈ items ↔ s ∈ items')) (observed : Value) :
    verdict (",".intercalate items) observed = verdict (",".intercalate items') observed := by
  cases observed with
  | map entries =>
    apply Bool.eq_iff_iff.2
    rw [verdict_intercalate, verdict_intercalate, List.all_eq_true, List.all_eq_true]
    have himp {xs ys : List String} (hxy : ∀ s, Text.isBlank s = false → s ∈ ys → s ∈ xs)
        (hx : ∀ s ∈ xs, verdict s (.map entries) = true) (s : String) (hs : s ∈ ys) :
        verdict s (.map entries) = true := by
      cases hb : Text.isBlank s with
      | true => exact verdict_blank hb
      | false => exact hx s (hxy s hb hs)
    constructor
    · exact himp fun s hb => (h s hb).2
    · exact himp fun s hb => (h s hb).1
  | null | bool _ | int _ | float _ | str _ | list _ | foreign _ => rfl

theorem verdict_mono
    (h : ∀ k v, Entries.get? k entries = some v → Entries.get? k entries' = some v) {text : String}
    (ht : verdict text (.map entries) = true) : verdict text (.map entries') = true := by
  apply List.all_eq_true.2
  intro item hitem
  have hi : itemHolds entries item = true := List.all_eq_true.1 ht item hitem
  rw [← String.toList_ofList (l := item)] at hi ⊢
  exact itemHolds_mono h hi

end

def Plain (s : String) : Prop :=
  Text.trim s = s ∧ ',' ∉ s.toList

instance (s : String) : Decidable (Plain s) :=
  inferInstanceAs (Decidable (_ ∧ _))

def listing (d : Dict Value) : String :=
  ",".intercalate (d.entries.map fun e => e.1 ++ "=" ++ e.2.render)

theorem verdict_listing {d : Dict Value}
    (h : ∀ k v, d.get? k = some v → Plain k ∧ '=' ∉ k.toList ∧ Plain v.render) :
    verdict (listing d) (.map d.entries) = true := by
  rw [listing, verdict_intercalate, List.all_eq_true]
  intro s hs
  obtain ⟨⟨k, v⟩, he, rfl⟩ := List.mem_map.1 hs
  have hget : d.get? k = some v := (Entries.get?_eq_some_iff d.sorted).2 he
  obtain ⟨⟨hk, hkcomma⟩, hequals, hv, hvcomma⟩ := h k v hget
  have hcomma : ',' ∉ (k ++ "=" ++ v.render).toList := by
    rw [toList_pair]
    simp [hkcomma, hvcomma]
  rw [verdict_item hcomma]
  exact itemHolds_iff.2 (.inr ⟨k, v.render, v, rfl, hequals, hk.symm ▸ hget, hv.symm⟩)

/-- Matching a set of pairs is to match each of them, whatever blank items stand between them, and
what matches a map matches every map that extends it. A map matches the list of its own entries. -/
theorem subset_conjunction :
    (∀ text observed, ∃ b, subset.plain text observed = .ok b) ∧
    (∀ a b observed, subset.plain (a ++ "," ++ b) observed = do
      let x ← subset.plain a observed
      let y ← subset.plain b observed
      pure (x && y)) ∧
    (∀ items items' : List String, (∀ s, Text.isBlank s = false → (s ∈ items ↔ s ∈ items')) →
      ∀ observed, subset.plain (",".intercalate items) observed =
        subset.plain (",".intercalate items') observed) ∧
    (∀ item : String, ',' ∉ item.toList → ∀ d : Dict Value,
      subset.plain item (.map d.entries) = .ok true ↔ Text.isBlank item = true ∨
        ∃ key text w, item = key ++ "=" ++ text ∧ '=' ∉ key.toList ∧
          d.get? (Text.trim key) = some w ∧ w.render = Text.trim text) ∧
    (∀ d d' : Dict Value, (∀ k v, d.get? k = some v → d'.get? k = some v) → ∀ text,
      subset.plain text (.map d.entries) = .ok true →
      subset.plain text (.map d'.entries) = .ok true) ∧
    ∀ d : Dict Value,
      (∀ k v, d.get? k = some v → Plain k ∧ '=' ∉ k.toList ∧ Plain v.render) →
      subset.plain (listing d) (.map d.entries) = .ok true := by
  refine ⟨fun text observed => ⟨_, plain_subset text observed⟩, ?_, ?_, ?_, ?_, ?_⟩
  · intro a b observed
    rw [plain_subset, plain_subset, plain_subset, verdict_append]
    rfl
  · intro items items' h observed
    rw [plain_subset, plain_subset, verdict_congr h]
  · intro item hcomma d
    rw [plain_subset_iff, verdict_item hcomma]
    exact itemHolds_iff
  · intro d d' h text
    rw [plain_subset_iff, plain_subset_iff]
    exact verdict_mono h
  · intro d h
    exact plain_subset_iff.2 (verdict_listing h)

theorem subset_conjunction_padded :
    let d : Dict Value := Dict.ofList [("user", .int 7), ("region", .str "eu")]
    let more := d.insert "tier" (.list [.str "gold"])
    let items := ["user=7", " ", "region=eu"]
    let items' := ["region=eu", "user=7", "region=eu"]
    (∀ s, Text.isBlank s = false → (s ∈ items ↔ s ∈ items')) ∧
      subset.plain (",".intercalate items) (.map d.entries) =
        subset.plain (",".intercalate items') (.map d.entries) ∧
      ',' ∉ " user = 7".toList ∧ subset.plain " user = 7" (.map d.entries) = .ok true ∧
      (∀ k v, d.get? k = some v → Plain k ∧ '=' ∉ k.toList ∧ Plain v.render) ∧
      (∀ k v, d.get? k = some v → more.get? k = some v) ∧
      subset.plain (listing d) (.map more.entries) = .ok true := by
  intro d more items items'
  obtain ⟨-, -, hitems, hitem, hmore, hself⟩ := subset_conjunction
  have hsame : ∀ s, Text.isBlank s = false → (s ∈ items ↔ s ∈ items') := by
    intro s hs
    have hne : s ≠ " " := by
      rintro rfl
      cases hs
    simp [items, items', hne, or_comm]
  have hcomma : ',' ∉ " user = 7".toList := by decide
  have hpair : subset.plain " user = 7" (.map d.entries) = .ok true := by
    refine (hitem _ hcomma d).2 (.inr ⟨" user ", " 7", .int 7, ?_, ?_, ?_, ?_⟩)
    · decide
    · decide
    · rfl
    · decide
  have hplain : ∀ k v, d.get? k = some v → Plain k ∧ '=' ∉ k.toList ∧ Plain v.render := by
    intro k v h
    have hmem : (k, v) ∈ [("region", Value.str "eu"), ("user", .int 7)] :=
      (Entries.get?_eq_some_iff d.sorted).1 h
    simp only [List.mem_cons, Prod.mk.injEq, List.not_mem_nil, or_false] at hmem
    rcases hmem with ⟨rfl, rfl⟩ | ⟨rfl, rfl⟩
    · exact ⟨by decide, by decide, by decide⟩
    · exact ⟨by decide, by decide, by decide⟩
  have hextends : ∀ k v, d.get? k = some v → more.get? k = some v := by
    intro k v h
    by_cases hk : k = "tier"
    · subst hk
      cases h
    · rw [Dict.get?_insert_ne hk, h]
  exact ⟨hsame, hitems items items' hsame _, hcomma, hpair, hplain, hextends,
    hmore d more hextends _ (hself d hplain)⟩

end FaultInjection.Conformance
