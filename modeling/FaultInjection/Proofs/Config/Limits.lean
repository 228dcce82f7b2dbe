import FaultInjection.Proofs.Config.Loading
import FaultInjection.Proofs.Limit.Effective

namespace FaultInjection

namespace Limit

variable {r : Rule} {limit : Limit} {e : String × Value} {text : String}

theorem exists_count_of_parseCount {n : UInt64} (h : parseCount text = .ok n) :
    ∃ n, Decimal.unsigned? UInt64.size text.toList = some n := by
  unfold parseCount at h
  split at h
  · next n hn => exact ⟨n, hn⟩
  · cases h

theorem exists_percent_of_parsePercent {n : Nat} (h : parsePercent text = .ok n) :
    ∃ n ≤ 100, Decimal.unsigned? 101 text.toList = some n := by
  unfold parsePercent at h
  split at h
  · next n hn =>
    have hlt : n < 101 := by
      unfold Decimal.unsigned? at hn
      simpa using (Option.filter_eq_some_iff.1 hn).2
    exact ⟨n, Nat.le_of_lt_succ hlt, hn⟩
  · cases h

theorem count_of_first (h : of r = .ok limit) (hl : Key.FirstSpelling Key.effectCount r.entries e)
    (ht : declared? (some e.2) = some text) :
    ∃ n, Decimal.unsigned? UInt64.size text.toList = some n := by
  rw [of_eq_of_count (Rule.condition?_of_first hl ▸ ht)] at h
  obtain ⟨n, hn, -⟩ := except_map_eq_ok h
  exact exists_count_of_parseCount hn

theorem percent_of_first (h : of r = .ok limit)
    (hl : Key.FirstSpelling Key.effectPercent r.entries e)
    (hc : declared? (r.condition? Key.effectCount) = none)
    (ht : declared? (some e.2) = some text) :
    ∃ n ≤ 100, Decimal.unsigned? 101 text.toList = some n := by
  rw [of_eq_of_percent hc (Rule.condition?_of_first hl ▸ ht)] at h
  obtain ⟨n, hn, -⟩ := except_map_eq_ok h
  exact exists_percent_of_parsePercent hn

theorem count_or_passed_over (h : of r = .ok limit) (he : e ∈ r.entries)
    (hn : Key.names e.1 Key.effectCount = true) (ht : declared? (some e.2) = some text) :
    (∃ n, Decimal.unsigned? UInt64.size text.toList = some n) ∨
      (∃ d ∈ r.entries, Key.names d.1 Key.effectCount = true ∧ d.1 < e.1) ∧
        of (r.without e.1) = of r := by
  by_cases hl : Key.FirstSpelling Key.effectCount r.entries e
  · exact .inl (count_of_first h hl ht)
  · right
    have hp := Key.names_effectPercent_eq_false hn
    exact ⟨Rule.exists_before_of_not_first he hn hl,
      of_without_of_not_first he hl (Key.not_firstSpelling hp)⟩

theorem percent_or_passed_over (h : of r = .ok limit) (he : e ∈ r.entries)
    (hn : Key.names e.1 Key.effectPercent = true) (ht : declared? (some e.2) = some text) :
    (∃ n ≤ 100, Decimal.unsigned? 101 text.toList = some n) ∨
      ((∃ d ∈ r.entries, Key.names d.1 Key.effectPercent = true ∧ d.1 < e.1) ∨
          declared? (r.condition? Key.effectCount) ≠ none) ∧
        of (r.without e.1) = of r := by
  by_cases hc : declared? (r.condition? Key.effectCount) = none
  · by_cases hl : Key.FirstSpelling Key.effectPercent r.entries e
    · exact .inl (percent_of_first h hl hc ht)
    · right
      have hnot := Key.names_effectCount_eq_false hn
      exact ⟨.inl (Rule.exists_before_of_not_first he hn hl),
        of_without_of_not_first he (Key.not_firstSpelling hnot) hl⟩
  · right
    exact ⟨.inr hc, of_without_percent_of_count hn hc⟩

end Limit

namespace RuleConfig

theorem mem_entries_written {c : RuleConfig} {m : Dict Json} (hm : c.matcher = some m)
    {e : String × Value} :
    e ∈ c.written.entries ↔ ∃ j ∈ m.entries, (j.1, j.2.toValue) = e := by
  have hentries : c.written.entries = m.entries.map fun j => (j.1, j.2.toValue) := by
    simp only [written, Rule.entries, hm]
    rfl
  rw [hentries, List.mem_map]

theorem exists_before_of_written {c : RuleConfig} {m : Dict Json} (hm : c.matcher = some m)
    {key reserved : String}
    (h : ∃ e ∈ c.written.entries, Key.names e.1 reserved = true ∧ e.1 < key) :
    ∃ j ∈ m.entries, Key.names j.1 reserved = true ∧ j.1 < key := by
  obtain ⟨e, he, hbefore⟩ := h
  obtain ⟨j, hj, rfl⟩ := (mem_entries_written hm).1 he
  exact ⟨j, hj, hbefore⟩

/-- Of the conditions of a rule that loads, each one that declares a limit declares a good one, or it
is passed over: it could as well be left out. That is so behind another spelling of its key, and for
a percentage beside a count. -/
theorem limit_conditions_of_toRule {c : RuleConfig} {r : Rule} (h : c.toRule = .ok r)
    {m : Dict Json} (hm : c.matcher = some m) {key : String} {j : Json}
    (hj : (key, j) ∈ m.entries) {text : String}
    (ht : Limit.declared? (some j.toValue) = some text) :
    (Key.names key Key.effectCount = true →
      (∃ n, Decimal.unsigned? UInt64.size text.toList = some n) ∨
        (∃ d ∈ m.entries, Key.names d.1 Key.effectCount = true ∧ d.1 < key) ∧
          Limit.of (r.without key) = Limit.of r) ∧
    (Key.names key Key.effectPercent = true →
      (∃ n ≤ 100, Decimal.unsigned? 101 text.toList = some n) ∨
        ((∃ d ∈ m.entries, Key.names d.1 Key.effectPercent = true ∧ d.1 < key) ∨
            Limit.declared? (r.condition? Key.effectCount) ≠ none) ∧
          Limit.of (r.without key) = Limit.of r) := by
  rw [toRule_eq_accept] at h
  obtain ⟨hvalid, rfl⟩ := accept_eq_ok h
  obtain ⟨limit, hl⟩ := limit_of_faults_nil hvalid
  have he : (key, j.toValue) ∈ c.written.entries := (mem_entries_written hm).2 ⟨_, hj, rfl⟩
  constructor
  · intro hn
    apply (Limit.count_or_passed_over hl he hn ht).imp_right
    rintro ⟨hbefore, hsame⟩
    exact ⟨exists_before_of_written hm hbefore, hsame⟩
  · intro hn
    apply (Limit.percent_or_passed_over hl he hn ht).imp_right
    rintro ⟨hbefore | hcount, hsame⟩
    · exact ⟨.inl (exists_before_of_written hm hbefore), hsame⟩
    · exact ⟨.inr hcount, hsame⟩

theorem limit_conditions_of_toRule_passed_over :
    let m : Dict Json := Dict.ofList
      [("effect-count", .int 2), ("effect-percent", .int 101), ("effectCount", .str "x")]
    let c : RuleConfig := {
      id := none, target := "t", action := "a", matcher := some m
      paramExp := none, flags := Dict.empty }
    c.toRule = .ok c.written ∧ ("effectCount", .str "x") ∈ m.entries ∧
      Limit.declared? (some (Json.toValue (.str "x"))) = some "x" ∧
      Limit.of (c.written.without "effectCount") = Limit.of c.written ∧
      ("effect-percent", .int 101) ∈ m.entries ∧
      Limit.declared? (some (Json.toValue (.int 101))) = some "101" ∧
      Limit.of (c.written.without "effect-percent") = Limit.of c.written := by
  intro m c
  have hrule : c.toRule = .ok c.written := toRule_eq_written (by decide) (by decide) (by rfl)
  have hcount : ("effectCount", .str "x") ∈ m.entries := by
    change _ ∈ [_, _, _]
    simp
  have hpercent : ("effect-percent", .int 101) ∈ m.entries := by
    change _ ∈ [_, _, _]
    simp
  have hx : Limit.declared? (some (Json.toValue (.str "x"))) = some "x" := by decide
  have h101 : Limit.declared? (some (Json.toValue (.int 101))) = some "101" := by rfl
  have hbad : Decimal.unsigned? UInt64.size "x".toList = none := by rfl
  have hover : Decimal.unsigned? 101 "101".toList = none := by rfl
  refine ⟨hrule, hcount, hx, ?_, hpercent, h101, ?_⟩
  · rcases (limit_conditions_of_toRule hrule rfl hcount hx).1 (by decide) with ⟨n, hn⟩ | h
    · rw [hbad] at hn
      cases hn
    · exact h.2
  · rcases (limit_conditions_of_toRule hrule rfl hpercent h101).2 (by decide) with ⟨n, -, hn⟩ | h
    · rw [hover] at hn
      cases hn
    · exact h.2

theorem toRule_passes_over_percent :
    let m : Dict Json := Dict.ofList [("effect-count", .int 2), ("effect-percent", .str "abc")]
    let c : RuleConfig := {
      id := none, target := "t", action := "a", matcher := some m
      paramExp := none, flags := Dict.empty }
    c.toRule = .ok c.written ∧ ("effect-percent", .str "abc") ∈ m.entries ∧
      Key.names "effect-percent" Key.effectPercent = true ∧
      Limit.declared? (some (Json.toValue (.str "abc"))) = some "abc" ∧
      Decimal.unsigned? 101 "abc".toList = none := by
  intro m c
  have hrule : c.toRule = .ok c.written := toRule_eq_written (by decide) (by decide) (by rfl)
  have hpercent : ("effect-percent", .str "abc") ∈ m.entries :=
    List.mem_cons_of_mem _ List.mem_cons_self
  exact ⟨hrule, hpercent, by decide, by decide, by rfl⟩

end RuleConfig
end FaultInjection
