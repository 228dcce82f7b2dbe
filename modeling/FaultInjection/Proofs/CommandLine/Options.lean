import FaultInjection.CommandLine
import FaultInjection.Proofs.Decimal.Whole
import Mathlib.Data.List.Induction

namespace FaultInjection.CommandLine

def Numeral (text : String) (n : Nat) : Prop :=
  ∃ digits : List Char, (text.toList = digits ∨ text.toList = '+' :: digits) ∧ digits ≠ [] ∧
    (∀ c ∈ digits, c.isDigit = true) ∧ n = Nat.ofDigitChars 10 digits 0 ∧ n < UInt64.size

inductive Setting
  | target (v : String)
  | attr (key text : String) (h : '=' ∉ key.toList)
  | argument (text : String)
  | repetitions (text : String) (n : Nat) (h : Numeral text n)

namespace Setting

def words : Setting → List String
  | target v => ["--target", v]
  | attr key text _ => ["--attr", key ++ "=" ++ text]
  | argument text => ["--arg", text]
  | repetitions text _ _ => ["--repeat", text]

def target? : Setting → Option String
  | target v => some v
  | _ => none

def attr? : Setting → Option (String × Value)
  | attr key text _ => some (key, parseValue text)
  | _ => none

def argument? : Setting → Option Value
  | argument text => some (parseValue text)
  | _ => none

def repetitions? : Setting → Option Nat
  | repetitions _ n _ => some n
  | _ => none

end Setting

def Options.ofSettings (ss : List Setting) : Options where
  target := (ss.filterMap Setting.target?).getLast?
  attributes := ss.filterMap Setting.attr?
  arguments := ss.filterMap Setting.argument?
  repetitions := (ss.filterMap Setting.repetitions?).getLast?.getD 1

inductive Offends : List String → Error → Prop
  | valueless {option : String} (h : option ∈ ["--target", "--attr", "--arg", "--repeat"]) :
      Offends [option] (.missingValue option)
  | keyless {pair : String} {args : List String} (h : '=' ∉ pair.toList) :
      Offends ("--attr" :: pair :: args) (.invalidAttribute pair)
  | countless {text : String} {args : List String} (h : ∀ n, ¬ Numeral text n) :
      Offends ("--repeat" :: text :: args) (.invalidRepetitions text)
  | unknown {arg : String} {args : List String}
      (h : arg ∉ ["--target", "--attr", "--arg", "--repeat"]) :
      Offends (arg :: args) (.unexpectedArgument arg)

theorem parseAttribute_eq_ok {key : String} (h : '=' ∉ key.toList) (text : String) :
    parseAttribute (key ++ "=" ++ text) = .ok (key, parseValue text) := by
  have hsplit : Text.splitFirst? '=' (key ++ "=" ++ text).toList =
      some (key.toList, text.toList) := by
    apply Text.splitFirst?_eq_some_iff.2
    simp [h]
  rw [parseAttribute, hsplit]
  simp

theorem parseAttribute_eq_error {pair : String} (h : '=' ∉ pair.toList) :
    parseAttribute pair = .error (.invalidAttribute pair) := by
  rw [parseAttribute, Text.splitFirst?_eq_none_iff.2 h]

theorem numeral_iff {text : String} {n : Nat} :
    Numeral text n ↔ Decimal.unsigned? UInt64.size text.toList = some n :=
  Decimal.unsigned?_eq_some_iff.symm

theorem parseRepetitions_eq_ok {text : String} {n : Nat} (h : Numeral text n) :
    parseRepetitions text = .ok n := by
  rw [parseRepetitions, numeral_iff.1 h]

theorem parseRepetitions_eq_error {text : String} (h : ∀ n, ¬ Numeral text n) :
    parseRepetitions text = .error (.invalidRepetitions text) := by
  have hnone : Decimal.unsigned? UInt64.size text.toList = none := by
    apply Option.eq_none_iff_forall_ne_some.2
    intro n hn
    exact h n (numeral_iff.2 hn)
  rw [parseRepetitions, hnone]

theorem isOption_iff {arg : String} :
    isOption arg = true ↔ arg ∈ ["--target", "--attr", "--arg", "--repeat"] := by
  simp [isOption]

def Options.take (o : Options) : Setting → Options
  | .target v => { o with target := some v }
  | .attr key text _ => { o with attributes := o.attributes ++ [(key, parseValue text)] }
  | .argument text => { o with arguments := o.arguments ++ [parseValue text] }
  | .repetitions _ n _ => { o with repetitions := n }

theorem parseOptions_words (o : Options) (s : Setting) (args : List String) :
    parseOptions o (s.words ++ args) = parseOptions (o.take s) args := by
  cases s with
  | target v => rfl
  | attr key text h =>
    have hpair := parseAttribute_eq_ok h text
    change (withOption o "--attr" (key ++ "=" ++ text)).bind (parseOptions · args) = _
    simp only [withOption, hpair]
    rfl
  | argument text => rfl
  | repetitions text n h =>
    change (withOption o "--repeat" text).bind (parseOptions · args) = _
    simp only [withOption, parseRepetitions_eq_ok h]
    rfl

theorem parseOptions_settings (o : Options) (ss : List Setting) (args : List String) :
    parseOptions o (ss.flatMap Setting.words ++ args) = parseOptions (ss.foldl .take o) args := by
  induction ss generalizing o with
  | nil => rfl
  | cons s ss ih =>
    rw [List.flatMap_cons, List.append_assoc, parseOptions_words]
    exact ih (o.take s)

theorem foldl_take (ss : List Setting) : ss.foldl .take {} = Options.ofSettings ss := by
  induction ss using List.reverseRecOn with
  | nil => rfl
  | append_singleton ss s ih =>
    rw [List.foldl_append, ih]
    cases s <;> simp [Options.ofSettings, Options.take, Setting.target?, Setting.attr?,
      Setting.argument?, Setting.repetitions?]

theorem Offends.parseOptions {args : List String} {e : Error} (h : Offends args e) (o : Options) :
    parseOptions o args = .error e := by
  cases h with
  | valueless h =>
    rw [CommandLine.parseOptions, if_pos (isOption_iff.2 h)]
  | keyless h =>
    change (withOption o "--attr" _).bind (CommandLine.parseOptions · _) = _
    simp only [withOption, parseAttribute_eq_error h]
    rfl
  | countless h =>
    change (withOption o "--repeat" _).bind (CommandLine.parseOptions · _) = _
    simp only [withOption, parseRepetitions_eq_error h]
    rfl
  | @unknown arg args h =>
    have hno : ¬ isOption arg = true := fun hyes => h (isOption_iff.1 hyes)
    cases args with
    | nil => rw [CommandLine.parseOptions, if_neg hno]
    | cons value args => rw [CommandLine.parseOptions, if_neg hno]

theorem Offends.append {args : List String} {e : Error} (h : Offends args e)
    (he : ∀ option, e ≠ .missingValue option) (more : List String) : Offends (args ++ more) e := by
  cases h with
  | valueless _ => exact absurd rfl (he _)
  | keyless h => exact .keyless h
  | countless h => exact .countless h
  | unknown h => exact .unknown h

theorem setting_or_offends (arg value : String) (args : List String) :
    (∃ s : Setting, s.words = [arg, value]) ∨ ∃ e, Offends (arg :: value :: args) e := by
  by_cases h : arg ∈ ["--target", "--attr", "--arg", "--repeat"]
  · simp only [List.mem_cons, List.not_mem_nil, or_false] at h
    rcases h with rfl | rfl | rfl | rfl
    · exact .inl ⟨.target value, rfl⟩
    · by_cases hpair : '=' ∈ value.toList
      · obtain ⟨key, text, hcut, hkey⟩ := Text.exists_cut hpair
        refine .inl ⟨.attr key text hkey, ?_⟩
        have hwhole : key ++ "=" ++ text = value := by
          apply String.toList_inj.1
          simp [hcut]
        rw [Setting.words, hwhole]
      · exact .inr ⟨_, .keyless hpair⟩
    · exact .inl ⟨.argument value, rfl⟩
    · by_cases hn : ∃ n, Numeral value n
      · obtain ⟨n, hn⟩ := hn
        exact .inl ⟨.repetitions value n hn, rfl⟩
      · exact .inr ⟨_, .countless (not_exists.1 hn)⟩
  · exact .inr ⟨_, .unknown h⟩

theorem exists_settings (args : List String) :
    ∃ (ss : List Setting) (rest : List String), args = ss.flatMap Setting.words ++ rest ∧
      (rest = [] ∨ ∃ e, Offends rest e) := by
  induction args using List.twoStepInduction with
  | nil => exact ⟨[], [], rfl, .inl rfl⟩
  | singleton arg =>
    refine ⟨[], [arg], rfl, .inr ?_⟩
    by_cases h : arg ∈ ["--target", "--attr", "--arg", "--repeat"]
    · exact ⟨_, .valueless h⟩
    · exact ⟨_, .unknown h⟩
  | cons_cons arg value args ih _ =>
    rcases setting_or_offends arg value args with ⟨s, hs⟩ | hoffends
    · obtain ⟨ss, rest, rfl, hrest⟩ := ih
      refine ⟨s :: ss, rest, ?_, hrest⟩
      rw [List.flatMap_cons, hs]
      rfl
    · exact ⟨[], _, rfl, .inr hoffends⟩

theorem parseOptions_eq_ok_iff {args : List String} {o : Options} : parseOptions {} args = .ok o ↔
    ∃ ss : List Setting, args = ss.flatMap Setting.words ∧ o = .ofSettings ss := by
  constructor
  · intro h
    obtain ⟨ss, rest, rfl, rfl | ⟨e, he⟩⟩ := exists_settings args
    · rw [parseOptions_settings, foldl_take] at h
      exact ⟨ss, List.append_nil _, (Except.ok.inj h).symm⟩
    · rw [parseOptions_settings, he.parseOptions] at h
      cases h
  · rintro ⟨ss, rfl, rfl⟩
    rw [← List.append_nil (ss.flatMap _), parseOptions_settings, foldl_take]
    rfl

theorem parseOptions_eq_error_iff {args : List String} {e : Error} :
    parseOptions {} args = .error e ↔ ∃ (ss : List Setting) (rest : List String),
      args = ss.flatMap Setting.words ++ rest ∧ Offends rest e := by
  constructor
  · intro h
    obtain ⟨ss, rest, rfl, rfl | ⟨e', he⟩⟩ := exists_settings args
    · rw [parseOptions_settings] at h
      cases h
    · rw [parseOptions_settings, he.parseOptions] at h
      cases h
      exact ⟨ss, rest, rfl, he⟩
  · rintro ⟨ss, rest, rfl, he⟩
    rw [parseOptions_settings, he.parseOptions]

theorem Options.ofSettings_append (ss ts : List Setting) : ofSettings (ss ++ ts) = {
    target := (ofSettings ts).target.or (ofSettings ss).target
    attributes := (ofSettings ss).attributes ++ (ofSettings ts).attributes
    arguments := (ofSettings ss).arguments ++ (ofSettings ts).arguments
    repetitions :=
      if ts.any (·.repetitions?.isSome) then (ofSettings ts).repetitions
      else (ofSettings ss).repetitions } := by
  have hrepetitions : (ts.filterMap Setting.repetitions?).getLast? = none ↔
      ts.any (·.repetitions?.isSome) = false := by
    simp
  simp only [ofSettings, List.filterMap_append, List.getLast?_append]
  cases hlast : (ts.filterMap Setting.repetitions?).getLast? with
  | none => simp [hrepetitions.1 hlast]
  | some n =>
    have hany : ts.any (·.repetitions?.isSome) = true := by
      by_contra hnot
      rw [hrepetitions.2 (Bool.not_eq_true _ ▸ hnot)] at hlast
      cases hlast
    simp [hany]

/-- What is read is a row of settings, and each such row is read as what its settings say; two rows
behind each other are read as one. What is refused is refused for the first pair that is no setting,
and if that pair is not cut off, nothing that is put behind it is looked at. -/
theorem parseOptions_exact :
    (∀ args o, parseOptions {} args = .ok o ↔
      ∃ ss : List Setting, args = ss.flatMap Setting.words ∧ o = .ofSettings ss) ∧
    (∀ args e, parseOptions {} args = .error e ↔ ∃ (ss : List Setting) (rest : List String),
      args = ss.flatMap Setting.words ++ rest ∧ Offends rest e) ∧
    (∀ ss ts : List Setting,
      parseOptions {} (ss.flatMap Setting.words ++ ts.flatMap Setting.words) = .ok {
        target := (Options.ofSettings ts).target.or (Options.ofSettings ss).target
        attributes := (Options.ofSettings ss).attributes ++ (Options.ofSettings ts).attributes
        arguments := (Options.ofSettings ss).arguments ++ (Options.ofSettings ts).arguments
        repetitions :=
          if ts.any (·.repetitions?.isSome) then (Options.ofSettings ts).repetitions
          else (Options.ofSettings ss).repetitions }) ∧
    ∀ args e, parseOptions {} args = .error e → (∀ option, e ≠ .missingValue option) →
      ∀ more, parseOptions {} (args ++ more) = .error e := by
  refine ⟨fun _ _ => parseOptions_eq_ok_iff, fun _ _ => parseOptions_eq_error_iff, ?_, ?_⟩
  · intro ss ts
    rw [← List.flatMap_append, ← Options.ofSettings_append]
    exact parseOptions_eq_ok_iff.2 ⟨ss ++ ts, rfl, rfl⟩
  · intro args e h he more
    obtain ⟨ss, rest, rfl, hrest⟩ := parseOptions_eq_error_iff.1 h
    rw [List.append_assoc]
    exact parseOptions_eq_error_iff.2 ⟨ss, rest ++ more, rfl, hrest.append he more⟩

theorem parseOptions_exact_refused :
    let args := ["--target", "--arg", "--repeat", "x"]
    parseOptions {} args = .error (.invalidRepetitions "x") ∧
      (∀ option, Error.invalidRepetitions "x" ≠ .missingValue option) ∧
      parseOptions {} (args ++ ["--repeat", "3"]) = .error (.invalidRepetitions "x") := by
  intro args
  have h : parseOptions {} args = .error (.invalidRepetitions "x") := by rfl
  have he : ∀ option, Error.invalidRepetitions "x" ≠ .missingValue option := nofun
  exact ⟨h, he, parseOptions_exact.2.2.2 args _ h he ["--repeat", "3"]⟩

end FaultInjection.CommandLine
