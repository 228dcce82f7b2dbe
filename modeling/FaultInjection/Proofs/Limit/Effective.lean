import FaultInjection.Limit.Basic

/-!
The condition that a limit is read from. Of all spellings of a key only the first in key order is
looked at, whether it declares something or not. So a blank condition can be left out, unless it
stands before another one that declares a limit.
-/
namespace FaultInjection

namespace Key

variable {α : Type} {key reserved : String} {es : List (String × α)} {e : String × α}

def FirstSpelling (reserved : String) (es : List (String × α)) (e : String × α) : Prop :=
  ∃ before behind, es = before ++ e :: behind ∧ names e.1 reserved = true ∧
    ∀ b ∈ before, names b.1 reserved = false

theorem find?_eq_some_iff_first :
    (es.find? fun d => names d.1 reserved) = some e ↔ FirstSpelling reserved es e := by
  rw [List.find?_eq_some_iff_append]
  constructor
  · rintro ⟨hn, before, behind, hsplit, hbefore⟩
    exact ⟨before, behind, hsplit, hn, by simpa using hbefore⟩
  · rintro ⟨before, behind, hsplit, hn, hbefore⟩
    exact ⟨hn, before, behind, hsplit, by simpa using hbefore⟩

theorem FirstSpelling.mem (h : FirstSpelling reserved es e) : e ∈ es := by
  obtain ⟨before, behind, rfl, -, -⟩ := h
  exact List.mem_append_right _ List.mem_cons_self

theorem FirstSpelling.names_eq_true (h : FirstSpelling reserved es e) :
    names e.1 reserved = true := by
  obtain ⟨-, -, -, hn, -⟩ := h
  exact hn

theorem not_firstSpelling (h : names e.1 reserved = false) : ¬ FirstSpelling reserved es e := by
  intro hl
  rw [hl.names_eq_true] at h
  cases h

theorem FirstSpelling.filter {p : String × α → Bool} (h : FirstSpelling reserved es e)
    (hp : p e = true) :
    FirstSpelling reserved (es.filter p) e := by
  obtain ⟨before, behind, rfl, hn, hbefore⟩ := h
  refine ⟨before.filter p, behind.filter p, ?_, hn, ?_⟩
  · rw [List.filter_append, List.filter_cons_of_pos hp]
  · intro b hb
    exact hbefore b ((List.mem_filter.1 hb).1)

theorem FirstSpelling.eq_or_lt (h : FirstSpelling reserved es e) (hs : Entries.Sorted es)
    {d : String × α} (hd : d ∈ es) (hn : names d.1 reserved = true) : d = e ∨ e.1 < d.1 := by
  obtain ⟨before, behind, rfl, -, hbefore⟩ := h
  rcases List.mem_append.1 hd with hd | hd
  · rw [hbefore d hd] at hn
    cases hn
  · rcases List.mem_cons.1 hd with rfl | hd
    · exact .inl rfl
    · have hlt := (List.pairwise_append.1 hs).2.1
      exact .inr ((List.pairwise_cons.1 hlt).1 d hd)

theorem names_congr (h : names key reserved = true) (other : String) :
    names key other = names reserved other := by
  have hc : canonical key = canonical reserved := eq_of_beq h
  rw [names, names, hc]

theorem names_effectPercent_eq_false (h : names key effectCount = true) :
    names key effectPercent = false := by
  rw [names_congr h]
  decide

theorem names_effectCount_eq_false (h : names key effectPercent = true) :
    names key effectCount = false := by
  rw [names_congr h]
  decide

end Key

namespace Rule

variable {r : Rule} {key reserved : String} {v : Value}

def without (r : Rule) (key : String) : Rule :=
  { r with conditions := r.conditions.map (·.erase key) }

theorem entries_without (r : Rule) (key : String) :
    (r.without key).entries = r.entries.filter fun e => e.1 != key := by
  unfold entries without
  cases r.conditions <;> rfl

theorem entries_sorted (r : Rule) : Entries.Sorted r.entries := by
  unfold entries
  cases r.conditions with
  | none => exact .nil
  | some d => exact d.sorted

theorem eq_of_key {d e : String × Value} (hd : d ∈ r.entries) (he : e ∈ r.entries)
    (hk : d.1 = e.1) : d = e := by
  obtain ⟨k, v⟩ := d
  obtain ⟨l, w⟩ := e
  obtain rfl : k = l := hk
  rw [Entries.value_unique r.entries_sorted hd he]

theorem condition?_of_first {e : String × Value} (h : Key.FirstSpelling reserved r.entries e) :
    r.condition? reserved = some e.2 := by
  rw [condition?, Key.find?_eq_some_iff_first.2 h, Option.map_some]

theorem exists_firstSpelling {e : String × Value} (he : e ∈ r.entries)
    (hn : Key.names e.1 reserved = true) : ∃ d, Key.FirstSpelling reserved r.entries d := by
  have hsome : (r.entries.find? fun d => Key.names d.1 reserved).isSome = true :=
    List.find?_isSome.2 ⟨e, he, hn⟩
  obtain ⟨d, hd⟩ := Option.isSome_iff_exists.1 hsome
  exact ⟨d, Key.find?_eq_some_iff_first.1 hd⟩

theorem exists_before_of_not_first {e : String × Value} (he : e ∈ r.entries)
    (hn : Key.names e.1 reserved = true) (hl : ¬ Key.FirstSpelling reserved r.entries e) :
    ∃ d ∈ r.entries, Key.names d.1 reserved = true ∧ d.1 < e.1 := by
  obtain ⟨d, hd⟩ := exists_firstSpelling he hn
  rcases hd.eq_or_lt r.entries_sorted he hn with rfl | hlt
  · exact absurd hd hl
  · exact ⟨d, hd.mem, hd.names_eq_true, hlt⟩

def stated (r : Rule) (reserved : String) : List Value :=
  (r.entries.filter fun e => Key.names e.1 reserved).map (·.2)

theorem condition?_eq_head? (r : Rule) (reserved : String) :
    r.condition? reserved = (r.stated reserved).head? := by
  rw [condition?, stated, List.head?_map, List.head?_filter]

theorem stated_without_of_neg (hn : Key.names key reserved = false) :
    (r.without key).stated reserved = r.stated reserved := by
  rw [stated, entries_without, List.filter_filter]
  congr 1
  apply List.filter_congr
  intro e _
  by_cases hk : e.1 = key
  · simp [hk, hn]
  · simp [hk]

theorem condition?_without_of_names_eq_false (hn : Key.names key reserved = false) :
    (r.without key).condition? reserved = r.condition? reserved := by
  rw [condition?_eq_head?, condition?_eq_head?, stated_without_of_neg hn]

theorem condition?_without_of_not_first {e : String × Value} (he : e ∈ r.entries)
    (hl : ¬ Key.FirstSpelling reserved r.entries e) :
    (r.without e.1).condition? reserved = r.condition? reserved := by
  cases hn : Key.names e.1 reserved with
  | false => exact r.condition?_without_of_names_eq_false hn
  | true =>
    obtain ⟨d, hd⟩ := exists_firstSpelling he hn
    have hk : d.1 ≠ e.1 := by
      intro hk
      exact hl (r.eq_of_key hd.mem he hk ▸ hd)
    have hkept : Key.FirstSpelling reserved (r.without e.1).entries d := by
      rw [entries_without]
      exact hd.filter (by simpa using hk)
    rw [condition?_of_first hkept, condition?_of_first hd]

def Hides (r : Rule) (reserved : String) (e : String × Value) : Prop :=
  Key.FirstSpelling reserved r.entries e ∧
    Limit.declared? ((r.without e.1).condition? reserved) ≠ none

end Rule

namespace Limit

variable {r s : Rule}

theorem of_congr (hc : s.condition? Key.effectCount = r.condition? Key.effectCount)
    (hp : s.condition? Key.effectPercent = r.condition? Key.effectPercent) : of s = of r := by
  unfold of
  rw [hc, hp]

theorem of_eq_of_count {text : String}
    (h : declared? (r.condition? Key.effectCount) = some text) :
    of r = (parseCount text).map .count := by
  simp only [of, h]

theorem of_eq_of_percent {text : String}
    (hc : declared? (r.condition? Key.effectCount) = none)
    (h : declared? (r.condition? Key.effectPercent) = some text) :
    of r = (parsePercent text).map .percent := by
  simp only [of, hc, h]

theorem of_eq_unlimited (hc : declared? (r.condition? Key.effectCount) = none)
    (hp : declared? (r.condition? Key.effectPercent) = none) : of r = .ok .unlimited := by
  simp only [of, hc, hp]

theorem parsePercent_ne_unlimited (text : String) :
    (parsePercent text).map percent ≠ .ok unlimited := by
  unfold parsePercent
  split <;> nofun

theorem parseCount_ne_of (text : String) (hc : declared? (r.condition? Key.effectCount) = none) :
    (parseCount text).map count ≠ of r := by
  cases hp : declared? (r.condition? Key.effectPercent) with
  | none =>
    rw [of_eq_unlimited hc hp]
    unfold parseCount
    split <;> nofun
  | some share =>
    rw [of_eq_of_percent hc hp]
    unfold parseCount parsePercent
    split <;> split <;> nofun

theorem of_without_of_not_first {e : String × Value} (he : e ∈ r.entries)
    (hc : ¬ Key.FirstSpelling Key.effectCount r.entries e)
    (hp : ¬ Key.FirstSpelling Key.effectPercent r.entries e) : of (r.without e.1) = of r := by
  apply of_congr
  · exact Rule.condition?_without_of_not_first he hc
  · exact Rule.condition?_without_of_not_first he hp

theorem of_without_percent_of_count {key : String} (hn : Key.names key Key.effectPercent = true)
    (h : declared? (r.condition? Key.effectCount) ≠ none) : of (r.without key) = of r := by
  obtain ⟨text, ht⟩ := Option.ne_none_iff_exists'.1 h
  have hc := r.condition?_without_of_names_eq_false (Key.names_effectCount_eq_false hn)
  rw [of_eq_of_count ht, of_eq_of_count (hc ▸ ht)]

theorem of_without_count {e : String × Value} (he : e ∈ r.entries)
    (hn : Key.names e.1 Key.effectCount = true) (hb : declared? (some e.2) = none) :
    of (r.without e.1) = of r ↔ ¬ r.Hides Key.effectCount e := by
  have hnot := Key.names_effectPercent_eq_false hn
  have hp := r.condition?_without_of_names_eq_false hnot
  by_cases hl : Key.FirstSpelling Key.effectCount r.entries e
  · have hc : declared? (r.condition? Key.effectCount) = none := by
      rw [Rule.condition?_of_first hl, hb]
    cases hd : declared? ((r.without e.1).condition? Key.effectCount) with
    | none =>
      have hsame : of (r.without e.1) = of r := by
        unfold of
        rw [hd, hc, hp]
      exact iff_of_true hsame fun h => h.2 hd
    | some text =>
      have hne : of (r.without e.1) ≠ of r := by
        rw [of_eq_of_count hd]
        exact parseCount_ne_of text hc
      exact iff_of_false hne (not_not_intro ⟨hl, by simp [hd]⟩)
  · exact iff_of_true (of_without_of_not_first he hl (Key.not_firstSpelling hnot)) fun h => hl h.1

theorem of_without_percent {e : String × Value} (he : e ∈ r.entries)
    (hn : Key.names e.1 Key.effectPercent = true) (hb : declared? (some e.2) = none) :
    of (r.without e.1) = of r ↔
      ¬ (r.Hides Key.effectPercent e ∧ declared? (r.condition? Key.effectCount) = none) := by
  have hnot := Key.names_effectCount_eq_false hn
  have hc := r.condition?_without_of_names_eq_false hnot
  by_cases hl : Key.FirstSpelling Key.effectPercent r.entries e
  · have hp : declared? (r.condition? Key.effectPercent) = none := by
      rw [Rule.condition?_of_first hl, hb]
    cases hcount : declared? (r.condition? Key.effectCount) with
    | some text =>
      exact iff_of_true (of_without_percent_of_count hn (by simp [hcount])) nofun
    | none =>
      rw [of_eq_unlimited hcount hp]
      cases hd : declared? ((r.without e.1).condition? Key.effectPercent) with
      | none =>
        have hsame := of_eq_unlimited (hc ▸ hcount) hd
        exact iff_of_true hsame fun h => h.1.2 hd
      | some text =>
        rw [of_eq_of_percent (hc ▸ hcount) hd]
        exact iff_of_false (parsePercent_ne_unlimited text)
          (not_not_intro ⟨⟨hl, by simp [hd]⟩, rfl⟩)
  · exact iff_of_true (of_without_of_not_first he (Key.not_firstSpelling hnot) hl) fun h => hl h.1.1

/-- A blank condition counts as one that is not there, unless it stands before other spellings of
its key and the next of these declares something. (Nobody notices if that is a percentage and a
count is declared, too.) -/
theorem of_without_blank {e : String × Value} (he : e ∈ r.entries)
    (hb : declared? (some e.2) = none) :
    (Key.names e.1 Key.effectCount = true →
      (of (r.without e.1) = of r ↔ ¬ r.Hides Key.effectCount e)) ∧
    (Key.names e.1 Key.effectPercent = true →
      (of (r.without e.1) = of r ↔
        ¬ (r.Hides Key.effectPercent e ∧ declared? (r.condition? Key.effectCount) = none))) :=
  ⟨fun hn => of_without_count he hn hb, fun hn => of_without_percent he hn hb⟩

theorem of_without_blank_counted :
    let r : Rule := {
      target := "t", action := "a"
      conditions := some (Dict.ofList
        [("EFFECT-PERCENT", .null), ("effect-count", .str "2"), ("effect-percent", .str "30"),
          ("effectCount", .str " ")]) }
    ("effectCount", .str " ") ∈ r.entries ∧ ("EFFECT-PERCENT", .null) ∈ r.entries ∧
      declared? (some (.str " ")) = none ∧ declared? (some .null) = none ∧
      of (r.without "effectCount") = of r ∧ of (r.without "EFFECT-PERCENT") = of r := by
  intro r
  have hcount : ("effectCount", .str " ") ∈ r.entries := by
    change _ ∈ [_, _, _, _]
    simp
  have hpercent : ("EFFECT-PERCENT", .null) ∈ r.entries := List.mem_cons_self
  have hspace : declared? (some (.str " ")) = none := by decide
  have hnull : declared? (some .null) = none := by decide
  have hread : r.condition? Key.effectCount = some (.str "2") := rfl
  refine ⟨hcount, hpercent, hspace, hnull, ?_, ?_⟩
  · apply ((of_without_blank hcount hspace).1 (by decide)).2
    intro h
    have hfirst := Rule.condition?_of_first h.1
    rw [hread] at hfirst
    exact absurd (Value.str.inj (Option.some.inj hfirst)) (by decide)
  · apply ((of_without_blank hpercent hnull).2 (by decide)).2
    rintro ⟨-, hnone⟩
    rw [hread] at hnone
    exact absurd hnone (by decide)

theorem blank_count_hides :
    let r : Rule := {
      target := "t", action := "a"
      conditions := some (Dict.ofList [("effect-count", .str ""), ("effectCount", .str "2")]) }
    ("effect-count", .str "") ∈ r.entries ∧ Key.names "effect-count" Key.effectCount = true ∧
      declared? (some (.str "")) = none ∧ of r = .ok .unlimited ∧
      of (r.without "effect-count") = .ok (.count 2) :=
  ⟨List.mem_cons_self, by decide, by decide, rfl, rfl⟩

end Limit
end FaultInjection
