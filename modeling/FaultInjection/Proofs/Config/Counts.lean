import FaultInjection.Proofs.Config.Loading
import FaultInjection.Proofs.Decimal.Whole
import FaultInjection.Proofs.Limit.Effective

namespace FaultInjection

namespace Key

variable {α β : Type} {reserved : String} {es : List (String × α)} {e : String × α}

theorem FirstSpelling.map (h : FirstSpelling reserved es e) (f : α → β) :
    FirstSpelling reserved (es.map fun d => (d.1, f d.2)) (e.1, f e.2) := by
  obtain ⟨before, behind, rfl, hn, hbefore⟩ := h
  refine ⟨before.map fun d => (d.1, f d.2), behind.map fun d => (d.1, f d.2), ?_, hn, ?_⟩
  · rw [List.map_append, List.map_cons]
  · intro b hb
    obtain ⟨d, hd, rfl⟩ := List.mem_map.1 hb
    exact hbefore d hd

end Key

namespace Limit

variable {r : Rule} {v : Value} {n : Nat}

theorem parseCount_eq_ok_iff {text : String} (hn : n < UInt64.size) :
    parseCount text = .ok n.toUInt64 ↔ Decimal.unsigned? UInt64.size text.toList = some n := by
  have htoNat {k : Nat} (hk : k < UInt64.size) : k.toUInt64.toNat = k := Nat.mod_eq_of_lt hk
  unfold parseCount
  split
  · next k hk =>
    rw [hk, Except.ok.injEq, Option.some.injEq, ← UInt64.toNat_inj,
      htoNat (Decimal.of_unsigned? hk).1, htoNat hn]
  · next hnone => simp [hnone]

theorem of_eq_count_iff (hc : r.condition? Key.effectCount = some v) (hn : n < UInt64.size) :
    of r = .ok (.count n.toUInt64) ↔
      Decimal.unsigned? UInt64.size (Text.trim v.render).toList = some n := by
  by_cases hb : Text.trim v.render = "" ∨ Text.trim v.render = "null"
  · have hnone : declared? (r.condition? Key.effectCount) = none := by
      simp only [hc, declared?, if_pos hb]
    have hcount : parseCount (toString n) = .ok n.toUInt64 :=
      (parseCount_eq_ok_iff hn).2 (Decimal.unsigned?_toString hn)
    have hnot := parseCount_ne_of (toString n) hnone
    rw [hcount] at hnot
    apply iff_of_false (Ne.symm hnot)
    rcases hb with ht | ht
    · rw [ht]
      exact nofun
    · rw [ht]
      exact nofun
  · have hsome : declared? (r.condition? Key.effectCount) = some (Text.trim v.render) := by
      simp only [hc, declared?, if_neg hb]
    rw [of_eq_of_count hsome, ← parseCount_eq_ok_iff hn]
    cases parseCount (Text.trim v.render) with
    | error e => exact ⟨nofun, nofun⟩
    | ok k => simp [Except.map]

end Limit

namespace RuleConfig

variable {c : RuleConfig} {m : Dict Json} {key : String} {j : Json} {n : Nat}

def Counts (c : RuleConfig) (n : Nat) : Prop :=
  ∃ r, c.toRule = .ok r ∧ Limit.of r = .ok (.count n.toUInt64)

theorem limitFault?_of_mem {e : LimitError} (h : .invalidLimit e ∈ c.faults) :
    limitFault? c.written = some (.invalidLimit e) := by
  have hblank (name text : String) : blankFault? name text ≠ some (.invalidLimit e) := by
    unfold blankFault?
    split <;> nofun
  have hpattern : .invalidLimit e ∉ c.conditionFaults := by
    intro hmem
    obtain ⟨d, -, hd⟩ := List.mem_filterMap.1 hmem
    unfold patternFault? at hd
    split at hd <;> cases hd
  have hflag : .invalidLimit e ∉ c.flagFaults := by
    intro hmem
    obtain ⟨d, -, hd⟩ := List.mem_filterMap.1 hmem
    unfold flagFault? at hd
    split at hd <;> cases hd
  have hexpression : c.written.expressionText?.bind expressionFault? ≠ some (.invalidLimit e) := by
    intro hsome
    obtain ⟨text, -, ht⟩ := Option.bind_eq_some_iff.1 hsome
    unfold expressionFault? at ht
    split at ht
    · cases ht
    · split at ht <;> cases ht
  simpa only [faults, List.mem_append, Option.mem_toList, Option.mem_def, hblank, hpattern, hflag,
    hexpression, false_or, or_false] using h

theorem faults_eq_nil {limit : Limit} (hf : ∀ f ∈ c.faults, ∃ e, f = .invalidLimit e)
    (hl : Limit.of c.written = .ok limit) : c.faults = [] := by
  apply List.eq_nil_iff_forall_not_mem.2
  intro f hmem
  obtain ⟨e, rfl⟩ := hf f hmem
  have hfault := limitFault?_of_mem hmem
  simp only [limitFault?, hl] at hfault
  cases hfault

theorem counts_iff_limit (hf : ∀ f ∈ c.faults, ∃ e, f = .invalidLimit e) :
    c.Counts n ↔ Limit.of c.written = .ok (.count n.toUInt64) := by
  rw [Counts, toRule_eq_accept]
  constructor
  · rintro ⟨r, hr, hl⟩
    obtain ⟨-, rfl⟩ := accept_eq_ok hr
    exact hl
  · intro hl
    rw [faults_eq_nil hf hl]
    exact ⟨_, rfl, hl⟩

theorem counts_iff_text (hm : c.matcher = some m)
    (hl : Key.FirstSpelling Key.effectCount m.entries (key, j))
    (hf : ∀ f ∈ c.faults, ∃ e, f = .invalidLimit e) (hn : n < UInt64.size) :
    c.Counts n ↔
      Decimal.unsigned? UInt64.size (Text.trim j.toValue.render).toList = some n := by
  have hentries : c.written.entries = m.entries.map fun e => (e.1, e.2.toValue) := by
    simp only [written, Rule.entries, hm]
    rfl
  have hfirst : Key.FirstSpelling Key.effectCount c.written.entries (key, j.toValue) :=
    hentries ▸ hl.map Json.toValue
  rw [counts_iff_limit hf, Limit.of_eq_count_iff (Rule.condition?_of_first hfirst) hn]

theorem render_int (h : (n : Int) ≤ Int64.maxValue.toInt) :
    (Json.int n).toValue.render = toString n := by
  have hmin : Int64.minValue.toInt = -9223372036854775808 := rfl
  have hmax : Int64.maxValue.toInt = 9223372036854775807 := rfl
  have hint : (Int64.ofInt n).toInt = n := Int64.toInt_ofInt_of_le (by omega) (by omega)
  have hvalue : (Json.int n).toValue = .int (Int64.ofInt n) := by
    rw [Json.toValue, if_pos ⟨by omega, h⟩]
  rw [hvalue, Value.render, hint]
  rfl

theorem render_large (h : ¬ (n : Int) ≤ Int64.maxValue.toInt) :
    (Json.int n).toValue.render = Decimal.plain.text (Decimal.wholeFloat n) := by
  have hvalue : (Json.int n).toValue = .float (Decimal.wholeFloat n) := by
    rw [Json.toValue, if_neg fun hrange => h hrange.2]
  rw [hvalue, Value.render]

/-- A count is enforced as it is written, be it a text or a number below `2 ^ 63`. From there on a
number must be what the text of its double writes, which only whole numbers of thousands can be. -/
theorem counts_as_written (hm : c.matcher = some m)
    (hl : Key.FirstSpelling Key.effectCount m.entries (key, j))
    (hf : ∀ f ∈ c.faults, ∃ e, f = .invalidLimit e) (hn : n < UInt64.size) :
    (j = .str (toString n) → c.Counts n) ∧
    (j = .int n → (c.Counts n ↔ (n : Int) ≤ Int64.maxValue.toInt ∨
      Decimal.unsigned? UInt64.size (Decimal.plain.text (Decimal.wholeFloat n)).toList =
        some n)) ∧
    (j = .int n → c.Counts n → (n : Int) ≤ Int64.maxValue.toInt ∨ 1000 ∣ n) := by
  have hread := counts_iff_text hm hl hf hn
  have hnumber : j = .int n → (c.Counts n ↔ (n : Int) ≤ Int64.maxValue.toInt ∨
      Decimal.unsigned? UInt64.size (Decimal.plain.text (Decimal.wholeFloat n)).toList =
        some n) := by
    rintro rfl
    rw [hread]
    by_cases hfits : (n : Int) ≤ Int64.maxValue.toInt
    · rw [render_int hfits, Decimal.trim_toString, Decimal.unsigned?_toString hn]
      exact iff_of_true rfl (.inl hfits)
    · rw [render_large hfits, Decimal.trim_text]
      exact (or_iff_right hfits).symm
  refine ⟨?_, hnumber, ?_⟩
  · rintro rfl
    rw [hread, Json.toValue, Value.render, Decimal.trim_toString, Decimal.unsigned?_toString hn]
  · intro hj hcounts
    by_cases hfits : (n : Int) ≤ Int64.maxValue.toInt
    · exact .inl hfits
    · have hmax : Int64.maxValue.toInt = 9223372036854775807 := rfl
      have htext := ((hnumber hj).1 hcounts).resolve_left hfits
      exact .inr (Decimal.thousand_dvd_of_unsigned?_text htext (by omega))

def counting (j : Json) : RuleConfig where
  id := none
  target := "t"
  action := "a"
  matcher := some (Dict.ofList [(Key.effectCount, j)])
  paramExp := none
  flags := Dict.empty

theorem condition?_counting (j : Json) (reserved : String) :
    (counting j).written.condition? reserved =
      if Key.names Key.effectCount reserved = true then some j.toValue else none := by
  change ([(Key.effectCount, j.toValue)].find? fun e => Key.names e.1 reserved).map (·.2) = _
  rw [List.find?_cons]
  cases Key.names Key.effectCount reserved <;> rfl

theorem faults_counting (j : Json) :
    (counting j).faults = (limitFault? (counting j).written).toList := by
  have htarget : Text.isBlank "t" = false := by decide
  have haction : Text.isBlank "a" = false := by decide
  have hplain : Key.isRegex Key.effectCount = false := by decide
  have hpattern : (counting j).conditionFaults = [] := by
    have hnone : patternFault? Key.effectCount j = none := by
      rw [patternFault?, hplain]
      rfl
    exact List.filterMap_eq_nil_iff.2 (List.forall_mem_singleton.2 hnone)
  have hexpression : (counting j).written.expressionText? = none := by
    have hother : Key.names Key.effectCount Key.paramExp = false := by decide
    change ((counting j).written.condition? Key.paramExp).map Value.render = none
    rw [condition?_counting, hother]
    rfl
  simp only [faults, blankFault?, hpattern, hexpression]
  simp [counting, htarget, haction, flagFaults, Dict.empty]

theorem invalidLimit_of_mem_faults_counting {j : Json} {f : RuleFault}
    (h : f ∈ (counting j).faults) : ∃ e, f = .invalidLimit e := by
  rw [faults_counting, Option.mem_toList] at h
  unfold limitFault? at h
  split at h
  · cases h
  · next e he => exact ⟨e, (Option.some.inj h).symm⟩

theorem firstSpelling_counting (j : Json) :
    Key.FirstSpelling Key.effectCount (Dict.ofList [(Key.effectCount, j)]).entries
      (Key.effectCount, j) :=
  ⟨[], [], rfl, (by decide : Key.names Key.effectCount Key.effectCount = true), nofun⟩

theorem counts_as_written_largest :
    (counting (.str (toString 18446744073709551615))).Counts 18446744073709551615 ∧
      (counting (.int 9223372036854775807)).Counts 9223372036854775807 ∧
      ¬ (counting (.int 18446744073709551615)).Counts 18446744073709551615 := by
  have h (j : Json) {n : Nat} (hn : n < UInt64.size) :=
    counts_as_written (rfl : (counting j).matcher = _) (firstSpelling_counting j)
      (fun _ => invalidLimit_of_mem_faults_counting) hn
  refine ⟨(h _ (by decide)).1 rfl, ?_, ?_⟩
  · exact ((h (.int 9223372036854775807) (by decide)).2.1 rfl).2 (.inl (by decide))
  · intro hcounts
    rcases (h (.int 18446744073709551615) (by decide)).2.2 rfl hcounts with hfits | hthousand
    · exact absurd hfits (by decide)
    · exact absurd hthousand (by decide)

theorem toRule_refuses_count :
    (counting (.int 18446744073709551615)).toRule =
        .error (.invalidLimit (.invalidCount "18446744073709552000")) ∧
      (counting (.str "18446744073709551615")).toRule =
        .ok (counting (.str "18446744073709551615")).written ∧
      Limit.of (counting (.str "18446744073709551615")).written =
        .ok (.count 18446744073709551615) := by
  have hlimit {j : Json} {text : String} (ht : Limit.declared? (some j.toValue) = some text) :
      Limit.of (counting j).written = (Limit.parseCount text).map .count := by
    apply Limit.of_eq_of_count
    rw [condition?_counting, if_pos (by decide)]
    exact ht
  have htext : Limit.declared? (some (Json.int 18446744073709551615).toValue) =
      some "18446744073709552000" := by decide +kernel
  have hnumber : Limit.of (counting (.int 18446744073709551615)).written =
      .error (.invalidCount "18446744073709552000") := hlimit htext
  have hdigits : Limit.declared? (some (Json.str "18446744073709551615").toValue) =
      some "18446744073709551615" := by decide
  have hstring : Limit.of (counting (.str "18446744073709551615")).written =
      .ok (.count 18446744073709551615) := hlimit hdigits
  refine ⟨?_, ?_, hstring⟩
  · rw [toRule_eq_accept, faults_counting, limitFault?, hnumber]
    rfl
  · rw [toRule_eq_accept, faults_counting, limitFault?, hstring]
    rfl

end RuleConfig
end FaultInjection
