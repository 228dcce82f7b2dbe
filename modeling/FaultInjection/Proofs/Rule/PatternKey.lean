import FaultInjection.Proofs.Config.Loaded
import FaultInjection.Proofs.Rule.Spelling

namespace FaultInjection

namespace Key

variable {key : String} {last : List Char}

theorem length_of_eqAsciiCase {s t : List Char} (h : Text.eqAsciiCase s t = true) :
    s.length = t.length := by
  have hmap : s.map Char.toLower = t.map Char.toLower := eq_of_beq h
  simpa using congrArg List.length hmap

theorem ascii_of_eqAsciiCase (h : Text.eqAsciiCase last regexEnding.toList = true) :
    ∀ c ∈ last, c.toNat < 128 := by
  intro c hc
  have hmap : last.map Char.toLower = regexEnding.toList.map Char.toLower := eq_of_beq h
  have hlower : c.toLower ∈ regexEnding.toList.map Char.toLower := hmap ▸ List.mem_map_of_mem hc
  have hsmall : ((regexEnding.toList.map Char.toLower).all fun d => d.toNat < 128) = true := by
    decide
  apply Nat.lt_of_not_le
  intro hlarge
  have hsame := of_decide_eq_true (List.all_eq_true.1 hsmall _ hlower)
  rw [toLower_of_not_ascii hlarge] at hsame
  omega

theorem byteSize_of_eqAsciiCase (h : Text.eqAsciiCase last regexEnding.toList = true) :
    Text.byteSize last = 6 :=
  (Text.byteSize_of_ascii (ascii_of_eqAsciiCase h)).trans (length_of_eqAsciiCase h)

theorem isRegex_eq (key : String) : isRegex key =
    (decide (6 ≤ Text.byteSize key.toList) &&
      (Text.dropBytes? (Text.byteSize key.toList - 6) key.toList).any
        (Text.eqAsciiCase · regexEnding.toList)) :=
  rfl

theorem isRegex_of_short (h : Text.byteSize key.toList < 6) : isRegex key = false := by
  rw [isRegex_eq, decide_eq_false (Nat.not_le_of_lt h), Bool.false_and]

theorem isRegex_of_offset {offset : Nat} (h : offset + 6 = Text.byteSize key.toList) :
    isRegex key = (Text.dropBytes? offset key.toList).any
      (Text.eqAsciiCase · regexEnding.toList) := by
  have hsize : 6 ≤ Text.byteSize key.toList := h ▸ Nat.le_add_left 6 offset
  rw [isRegex_eq, decide_eq_true hsize, Bool.true_and, ← h, Nat.add_sub_cancel]

theorem isRegex_of_inside {offset : Nat} (h : offset + 6 = Text.byteSize key.toList)
    {front back : List Char} {c : Char} (hkey : key.toList = front ++ c :: back)
    (hlow : Text.byteSize front < offset) (hhigh : offset < Text.byteSize front + c.utf8Size) :
    isRegex key = false := by
  rw [isRegex_of_offset h, hkey, Text.dropBytes?_inside hlow hhigh]
  rfl

theorem isRegex_iff : isRegex key = true ↔
    ∃ front last, key.toList = front ++ last ∧
      Text.eqAsciiCase last regexEnding.toList = true := by
  rw [isRegex_eq, Bool.and_eq_true, Option.any_eq_true]
  constructor
  · rintro ⟨-, last, hdrop, hlast⟩
    obtain ⟨front, hkey, -⟩ := Text.dropBytes?_eq_some_iff.1 hdrop
    exact ⟨front, last, hkey, hlast⟩
  · rintro ⟨front, last, hkey, hlast⟩
    have hsize : Text.byteSize key.toList = Text.byteSize front + 6 := by
      rw [hkey, Text.byteSize_append, byteSize_of_eqAsciiCase hlast]
    refine ⟨decide_eq_true (by omega), last, ?_, hlast⟩
    exact Text.dropBytes?_eq_some_iff.2 ⟨front, hkey, by omega⟩

theorem isRegex_iff_last_six : isRegex key = true ↔
    6 ≤ key.toList.length ∧
      Text.eqAsciiCase (key.toList.drop (key.toList.length - 6)) regexEnding.toList = true := by
  rw [isRegex_iff]
  constructor
  · rintro ⟨front, last, hkey, hlast⟩
    have hsix : last.length = 6 := length_of_eqAsciiCase hlast
    have hfront : (front ++ last).length - 6 = front.length := by
      rw [List.length_append]
      omega
    rw [hkey, hfront, List.drop_left]
    refine ⟨?_, hlast⟩
    rw [List.length_append]
    omega
  · rintro ⟨-, hlast⟩
    exact ⟨_, _, (List.take_append_drop _ _).symm, hlast⟩

theorem isSeparator_toLower (c : Char) : isSeparator c.toLower = isSeparator c := by
  by_cases hupper : c.val ≥ 'A'.val ∧ c.val ≤ 'Z'.val
  · have hlow : 65 ≤ c.toNat := UInt32.le_iff_toNat_le.1 hupper.1
    have hhigh : c.toNat ≤ 90 := UInt32.le_iff_toNat_le.1 hupper.2
    have hlower : c.toLower.toNat = c.toNat + 32 := by
      unfold Char.toLower
      rw [dif_pos hupper]
      change (c.toNat + 32) % 4294967296 = c.toNat + 32
      omega
    rw [Bool.eq_iff_iff, isSeparator_iff, isSeparator_iff]
    omega
  · have hsame : c.toLower = c := dif_neg hupper
    rw [hsame]

theorem canonical_eq (key : String) :
    canonical key = (key.toList.map Char.toLower).filter fun c => !isSeparator c := by
  rw [canonical, List.filter_map]
  congr 1
  apply List.filter_congr
  intro c _
  exact congrArg not (isSeparator_toLower c).symm

theorem suffix_canonical_of_isRegex (h : isRegex key = true) :
    "regex".toList <:+ canonical key := by
  obtain ⟨front, last, hkey, hlast⟩ := isRegex_iff.1 h
  have hmap : last.map Char.toLower = regexEnding.toList.map Char.toLower := eq_of_beq hlast
  rw [canonical_eq, hkey, List.map_append, List.filter_append, hmap]
  exact List.suffix_append _ _

theorem isReserved_of_isRegex (h : isRegex key = true) : isReserved key = false := by
  have hapart : ∀ reserved ∈ reservedKeys, ¬ "regex".toList <:+ canonical reserved := by decide
  apply isReserved_eq_false_iff.2
  intro reserved hr
  apply beq_eq_false_iff_ne.2
  intro hsame
  exact hapart reserved hr (hsame ▸ suffix_canonical_of_isRegex h)

end Key

def Strategy.readsPattern : Strategy → Bool
  | .pattern | .customPattern _ => true
  | _ => false

theorem Strategy.readsPattern_of (key : String) (custom : Option Matcher) :
    (of key custom).readsPattern = Key.isRegex key := by
  unfold of
  cases custom <;> cases Key.isRegex key <;> rfl

/-- Keys of patterns are told by their last six characters, whatever the key is written in. The cut
that tells them stays inside the key, and where it would split a character the answer is no. No such
key is reserved: a comparison passes over no pattern, and when a rule was loaded every pattern was
checked that a comparison reads as one. -/
theorem Key.isRegex_exact (key : String) :
    (Text.byteSize key.toList < 6 ∧ isRegex key = false ∨
      ∃ offset, offset + 6 = Text.byteSize key.toList ∧
        isRegex key = (Text.dropBytes? offset key.toList).any
          (Text.eqAsciiCase · "-regex".toList) ∧
        ∀ front c back, key.toList = front ++ c :: back → Text.byteSize front < offset →
          offset < Text.byteSize front + c.utf8Size → isRegex key = false) ∧
    (isRegex key = true ↔
      6 ≤ key.toList.length ∧
        Text.eqAsciiCase (key.toList.drop (key.toList.length - 6)) "-regex".toList = true) ∧
    (isRegex key = true → isReserved key = false) ∧
    (∀ (r : Rule) (call : Call) (now : Nat) (ps : Patterns) (expected : Value),
      (key, expected) ∈ r.entries → isRegex key = true →
      ((∃ qs, (key, expected, qs) ∈ r.weighed now call ps r.entries) ∨
        ∃ w ∈ r.weighed now call ps r.entries,
          (r.meets now call w.2.2 w.1 w.2.1).1 ≠ .ok true) ∧
      ((r.applies now call ps).1 = .ok true →
        ∃ qs, (key, expected, qs) ∈ r.weighed now call ps r.entries ∧
          (r.meets now call qs key expected).1 = .ok true)) ∧
    ∀ (c : RuleConfig) (r : Rule), c.toRule = .ok r →
      ∀ (call : Call) (now : Nat) (ps qs : Patterns) (expected : Value),
        (key, expected, qs) ∈ r.weighed now call ps r.entries →
        (Strategy.of key (call.matchers.get? key)).readsPattern = true →
        ∃ p, Patterns.compile expected.render = .ok p := by
  refine ⟨?_, isRegex_iff_last_six, isReserved_of_isRegex, ?_, ?_⟩
  · rcases Nat.lt_or_ge (Text.byteSize key.toList) 6 with hshort | hlong
    · exact .inl ⟨hshort, isRegex_of_short hshort⟩
    · have hoffset := Nat.sub_add_cancel hlong
      refine .inr ⟨_, hoffset, isRegex_of_offset hoffset, ?_⟩
      intro front c back hkey hlow hhigh
      exact isRegex_of_inside hoffset hkey hlow hhigh
  · intro r call now ps expected he hregex
    have hweighed : (∃ qs, (key, expected, qs) ∈ r.weighed now call ps r.entries) ∨ _ :=
      r.weighed_or_decided call he (isReserved_of_isRegex hregex)
    refine ⟨hweighed, fun happlies => ?_⟩
    have hmet := r.met_of_meetsAll call
      (r.meetsAll_of_applies call happlies (List.ne_nil_of_mem he))
    rcases hweighed with ⟨qs, hqs⟩ | ⟨w, hw, hne⟩
    · exact ⟨qs, hqs, hmet _ hqs⟩
    · exact absurd (hmet w hw) hne
  · intro c r hload call now ps qs expected hw hreads
    have hregex : isRegex key = true := by rw [← Strategy.readsPattern_of, hreads]
    exact (RuleConfig.readable_of_toRule hload).pattern (key, expected) (Rule.mem_of_mem_weighed hw)
      hregex

theorem Key.isRegex_exact_loaded :
    let config : RuleConfig := {
      id := none, target := "t", action := "a", flags := Dict.empty, paramExp := none
      matcher := some (Dict.ofList [("é-ReGeX", .str "b")]) }
    let rule : Rule := {
      target := "t", action := "a"
      conditions := some (Dict.ofList [("é-ReGeX", .str "b")]) }
    let call : Call := { target := "t" }
    config.toRule = .ok rule ∧ isRegex "é-ReGeX" = true ∧ isReserved "é-ReGeX" = false ∧
      (Strategy.of "é-ReGeX" (call.matchers.get? "é-ReGeX")).readsPattern = true ∧
      ∃ p, Patterns.compile (Value.str "b").render = .ok p := by
  intro config rule call
  have hregex : isRegex "é-ReGeX" = true := (isRegex_exact _).2.1.2 (by decide)
  have hconditions : RuleConfig.conditions [("é-ReGeX", .str "b")] =
      .ok [("é-ReGeX", .str "b")] := by
    have hpattern : (Pattern.compileWhole? "b").isNone = false := by decide +kernel
    have hrender : (Json.toValue (.str "b")).render = "b" := by rfl
    simp only [RuleConfig.conditions, hregex, hrender, hpattern]
    rfl
  have hrule : config.toRule = .ok rule := by
    have hvalues : config.matcherValues = .ok rule.conditions :=
      congrArg (Except.map fun cs => some (Dict.ofList cs)) hconditions
    have htarget : Text.isBlank config.target = false := by decide
    have haction : Text.isBlank config.action = false := by decide
    have hnames : config.checkNames = .ok () := by
      simp only [RuleConfig.checkNames, htarget, haction]
      rfl
    have hchecked : RuleConfig.checkRule rule = .ok () := by rfl
    rw [RuleConfig.toRule_eq, hnames, hvalues]
    exact congrArg (Except.map fun _ => rule) hchecked
  have hreads : (Strategy.of "é-ReGeX" (call.matchers.get? "é-ReGeX")).readsPattern = true := by
    rw [Strategy.readsPattern_of, hregex]
  obtain ⟨-, -, hapart, -, hchecked⟩ := isRegex_exact "é-ReGeX"
  exact ⟨hrule, hregex, hapart hregex, hreads,
    hchecked config rule hrule call 0 (Cache.empty 1 1 0) _ (.str "b") List.mem_cons_self hreads⟩

end FaultInjection
