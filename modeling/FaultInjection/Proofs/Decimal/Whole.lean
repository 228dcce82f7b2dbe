import FaultInjection.Decimal.Layout
import FaultInjection.Decimal.Reader
import FaultInjection.Text.Space

/-!
Whole numbers as texts. A run of digits is read as the number that it writes. The text of a double
can be read as a whole number, too, but of a large one only the leading digits are written: from
`2 ^ 63` on at least three zeros stand behind them.
-/
namespace FaultInjection.Decimal

section

variable {c : Char} {cs : List Char} {n bound : Nat}

theorem digit?_eq_some_iff : digit? c = some n ↔ c.isDigit = true ∧ n = c.toNat - '0'.toNat := by
  have hdigit : ('0' ≤ c ∧ c ≤ '9') ↔ c.isDigit = true := by
    simp [Char.isDigit, Char.le_def]
  rw [digit?]
  split
  · next h =>
    rw [Option.some.injEq, ← hdigit, eq_comm]
    exact (and_iff_right h).symm
  · next h =>
    rw [hdigit] at h
    simp [h]

theorem foldl_digits_none (cs : List Char) :
    cs.foldl (fun n c => do pure (10 * (← n) + (← digit? c))) none = none := by
  induction cs with
  | nil => rfl
  | cons c cs ih => exact ih

theorem foldl_digits (cs : List Char) (k : Nat) :
    cs.foldl (fun n c => do pure (10 * (← n) + (← digit? c))) (some k) = some n ↔
      (∀ c ∈ cs, c.isDigit = true) ∧ n = Nat.ofDigitChars 10 cs k := by
  induction cs generalizing k with
  | nil =>
    rw [List.foldl_nil, Option.some.injEq, Nat.ofDigitChars_nil, eq_comm]
    exact (and_iff_right fun c hc => nomatch hc).symm
  | cons c cs ih =>
    rw [List.foldl_cons, List.forall_mem_cons, Nat.ofDigitChars_cons]
    cases hd : digit? c with
    | none =>
      have hc : ¬ c.isDigit = true := fun h => by
        rw [digit?_eq_some_iff.2 ⟨h, rfl⟩] at hd
        cases hd
      have hnone := foldl_digits_none cs
      constructor
      · intro h
        cases hnone.symm.trans h
      · rintro ⟨⟨hdigit, -⟩, -⟩
        exact absurd hdigit hc
    | some d =>
      obtain ⟨hc, rfl⟩ := digit?_eq_some_iff.1 hd
      rw [and_iff_right hc]
      exact ih _

theorem number?_eq_some_iff : number? cs = some n ↔
    cs ≠ [] ∧ (∀ c ∈ cs, c.isDigit = true) ∧ n = Nat.ofDigitChars 10 cs 0 := by
  cases cs with
  | nil => simp [number?]
  | cons c cs => exact (foldl_digits _ 0).trans (and_iff_right (List.cons_ne_nil c cs)).symm

theorem unsigned?_of_digits (hne : cs ≠ []) (h : ∀ c ∈ cs, c.isDigit = true) :
    unsigned? bound cs = (some (Nat.ofDigitChars 10 cs 0)).filter (· < bound) := by
  unfold unsigned?
  split
  · next r => exact absurd (h '+' List.mem_cons_self) (by decide)
  · exact congrArg (Option.filter (· < bound)) (number?_eq_some_iff.2 ⟨hne, h, rfl⟩)

theorem unsigned?_eq_some_iff : unsigned? bound cs = some n ↔
    ∃ ds, (cs = ds ∨ cs = '+' :: ds) ∧ ds ≠ [] ∧ (∀ c ∈ ds, c.isDigit = true) ∧
      n = Nat.ofDigitChars 10 ds 0 ∧ n < bound := by
  have hplus : ('+').isDigit = false := by decide
  unfold unsigned?
  simp only [Option.filter_eq_some_iff, decide_eq_true_eq, number?_eq_some_iff]
  split
  · next r =>
    constructor
    · rintro ⟨⟨hne, hds, hn⟩, hlt⟩
      exact ⟨r, .inr rfl, hne, hds, hn, hlt⟩
    · rintro ⟨ds, rfl | heq, hne, hds, hn, hlt⟩
      · have hd := hds '+' List.mem_cons_self
        rw [hplus] at hd
        cases hd
      · obtain rfl := (List.cons.inj heq).2
        exact ⟨⟨hne, hds, hn⟩, hlt⟩
  · next hsign =>
    constructor
    · rintro ⟨⟨hne, hds, hn⟩, hlt⟩
      exact ⟨cs, .inl rfl, hne, hds, hn, hlt⟩
    · rintro ⟨ds, rfl | rfl, hne, hds, hn, hlt⟩
      · exact ⟨⟨hne, hds, hn⟩, hlt⟩
      · exact absurd rfl (hsign ds)

theorem of_unsigned? (h : unsigned? bound cs = some n) :
    n < bound ∧ ∀ c ∈ cs, c = '+' ∨ c.isDigit = true := by
  obtain ⟨ds, hcs, -, hds, -, hlt⟩ := unsigned?_eq_some_iff.1 h
  refine ⟨hlt, fun c hc => ?_⟩
  rcases hcs with rfl | rfl
  · exact .inr (hds c hc)
  · rcases List.mem_cons.1 hc with rfl | hc
    · exact .inl rfl
    · exact .inr (hds c hc)

theorem unsigned?_toString (h : n < bound) : unsigned? bound (toString n).toList = some n := by
  have hlist : (toString n).toList = Nat.toDigits 10 n := Nat.toList_repr
  have hdigits : ∀ c ∈ Nat.toDigits 10 n, c.isDigit = true := fun c hc =>
    Nat.isDigit_of_mem_toDigits (by decide) (by decide) hc
  rw [hlist, unsigned?_of_digits Nat.toDigits_ne_nil hdigits, Nat.ofDigitChars_ten_toDigits]
  exact Option.filter_eq_some_iff.2 ⟨rfl, decide_eq_true h⟩

theorem isSpace_of_isDigit (h : c.isDigit = true) : Text.isSpace c = false := by
  have hlow : 48 ≤ c.toNat ∧ c.toNat ≤ 57 := by
    simpa [Char.isDigit, UInt32.le_iff_toNat_le] using h
  simp only [Text.isSpace, Bool.or_eq_false_iff, Bool.and_eq_false_iff, decide_eq_false_iff_not,
    beq_eq_false_iff_ne]
  omega

theorem trim_toString (n : Nat) : Text.trim (toString n) = toString n := by
  apply Text.trim_of_no_spaces
  intro c hc
  have hlist : (toString n).toList = Nat.toDigits 10 n := Nat.toList_repr
  rw [hlist] at hc
  exact isSpace_of_isDigit (Nat.isDigit_of_mem_toDigits (by decide) (by decide) hc)

end

section

variable {x : Float} {m n bound : Nat} {q : Int} {c : Char}

theorem plain_text_cases (x : Float) :
    plain.text x ∈ ["NaN", "inf", "-inf", "0", "-0"] ∨
      ∃ negative m q, Binary64.ofFloat x = .finite negative m q ∧
        plain.text x = (if negative then "-" else "") ++
          plain.positionalText (Nat.toDigits 10 (shortest .away m q).digits)
            ((shortest .away m q).exponent +
              (Nat.toDigits 10 (shortest .away m q).digits).length - 1) := by
  unfold Layout.text
  split
  · exact .inl (by simp)
  · next negative _ => cases negative <;> exact .inl (by simp)
  · next negative m q hx =>
    by_cases hm : m = 0
    · left
      subst hm
      cases negative <;> simp [plain]
    · right
      refine ⟨negative, m, q, hx, ?_⟩
      rw [if_neg hm]
      rfl

theorem isSpace_of_mem_text (hc : c ∈ (plain.text x).toList) : Text.isSpace c = false := by
  rcases plain_text_cases x with hname | ⟨negative, m, q, -, ht⟩
  · have hall : ["NaN", "inf", "-inf", "0", "-0"].all
        (fun s => s.toList.all fun c => !Text.isSpace c) = true := by decide
    simpa using List.all_eq_true.1 (List.all_eq_true.1 hall _ hname) c hc
  · rw [ht, String.toList_append, List.mem_append] at hc
    rcases hc with hsign | hc
    · cases negative with
      | true =>
        obtain rfl := List.mem_singleton.1 hsign
        decide
      | false => cases hsign
    · rcases Layout.mem_positionalText hc with hdigit | rfl | rfl
      · exact isSpace_of_isDigit (Nat.isDigit_of_mem_toDigits (by decide) (by decide) hdigit)
      · decide
      · decide

theorem trim_text (x : Float) : Text.trim (plain.text x) = plain.text x :=
  Text.trim_of_no_spaces fun _ hc => isSpace_of_mem_text hc

theorem digits_of_unsigned?_text (h : unsigned? bound (plain.text x).toList = some n)
    (hn : n ≠ 0) :
    ∃ m q, Binary64.ofFloat x = .finite false m q ∧ 0 ≤ (shortest .away m q).exponent ∧
      n = Nat.pow 10 (shortest .away m q).exponent.toNat * (shortest .away m q).digits := by
  have hnot {c : Char} (hplus : c ≠ '+') (hdigit : c.isDigit = false) :
      c ∉ (plain.text x).toList := by
    intro hc
    rcases (of_unsigned? h).2 c hc with rfl | hc
    · exact hplus rfl
    · rw [hc] at hdigit
      cases hdigit
  rcases plain_text_cases x with hname | ⟨negative, m, q, hx, ht⟩
  · have hread : ∀ s ∈ ["NaN", "inf", "-inf", "0", "-0"],
        (unsigned? bound s.toList).getD 0 = 0 := by
      intro s hs
      simp only [List.mem_cons, List.not_mem_nil, or_false] at hs
      rcases hs with rfl | rfl | rfl | rfl | rfl
      · rfl
      · rfl
      · rfl
      · cases bound <;> rfl
      · rfl
    have hzero := hread _ hname
    rw [h] at hzero
    exact absurd hzero hn
  · cases negative with
    | true =>
      refine absurd ?_ (hnot (c := '-') (by decide) (by decide))
      rw [ht, String.toList_append]
      exact List.mem_append_left _ (by decide)
    | false =>
      refine ⟨m, q, hx, ?_⟩
      generalize (shortest .away m q) = d at ht ⊢
      have htext : plain.text x = plain.positionalText (Nat.toDigits 10 d.digits)
          (d.exponent + (Nat.toDigits 10 d.digits).length - 1) := ht.trans (by simp)
      rw [htext] at hnot h
      obtain ⟨hs, hl, hlist⟩ := Layout.toList_positionalText (hnot (by decide) (by decide))
      have hexp : 0 ≤ d.exponent := by omega
      have hzeros : (d.exponent + (Nat.toDigits 10 d.digits).length - 1).toNat + 1 -
          (Nat.toDigits 10 d.digits).length = d.exponent.toNat := by omega
      have hdigits : ∀ c ∈ Nat.toDigits 10 d.digits ++ List.replicate d.exponent.toNat '0',
          c.isDigit = true := by
        intro c hc
        rcases List.mem_append.1 hc with hc | hc
        · exact Nat.isDigit_of_mem_toDigits (by decide) (by decide) hc
        · rw [(List.mem_replicate.1 hc).2]
          decide
      rw [hlist, hzeros, unsigned?_of_digits (by simp) hdigits, Nat.ofDigitChars_append,
        Nat.ofDigitChars_replicate_zero, Nat.ofDigitChars_ten_toDigits] at h
      exact ⟨hexp, Option.some.inj (Option.filter_eq_some_iff.1 h).1.symm⟩

end

section

variable {tie : Tie} {i : Interval} {p p₀ q : Int} {d m : Nat}

theorem contains_of_nearest? (h : nearest? tie i p q = some d) :
    i.contains (gridStep p q).2 (d * (gridStep p q).1) = true := by
  simp only [nearest?] at h
  generalize i.mid * (gridStep p q).2 / (gridStep p q).1 = k at h
  split at h
  · next hboth =>
    rw [Bool.and_eq_true, Bool.and_eq_true] at hboth
    split at h
    · exact Option.some.inj h ▸ hboth.1.2
    · exact Option.some.inj h ▸ hboth.2
  · split at h
    · next hbelow =>
      rw [Bool.and_eq_true] at hbelow
      exact Option.some.inj h ▸ hbelow.2
    · split at h
      · next habove => exact Option.some.inj h ▸ habove
      · cases h

theorem isSome_nearest? (h : i.contains (gridStep p q).2
    ((i.mid * (gridStep p q).2 / (gridStep p q).1 + 1) * (gridStep p q).1) = true) :
    (nearest? tie i p q).isSome = true := by
  simp only [nearest?, h]
  split
  · rfl
  · split
    · rfl
    · rfl

theorem le_of_contains {unit x : Nat} (h : i.contains unit x = true) : x ≤ i.high * unit := by
  unfold Interval.contains at h
  split at h
  · rw [Bool.and_eq_true, decide_eq_true_eq, decide_eq_true_eq] at h
    exact h.2
  · rw [Bool.and_eq_true, decide_eq_true_eq, decide_eq_true_eq] at h
    exact Nat.le_of_lt h.2

theorem contains_of_lt {unit x : Nat} (hl : i.low * unit < x) (hh : x < i.high * unit) :
    i.contains unit x = true := by
  unfold Interval.contains
  split
  · rw [Bool.and_eq_true, decide_eq_true_eq, decide_eq_true_eq]
    exact ⟨Nat.le_of_lt hl, Nat.le_of_lt hh⟩
  · rw [Bool.and_eq_true, decide_eq_true_eq, decide_eq_true_eq]
    exact ⟨hl, hh⟩

theorem le_exponent_descend (h : (nearest? tie i p₀ q).isSome = true) (hp : p₀ ≤ p) (fuel : Nat) :
    p₀ ≤ (descend tie i q fuel p).exponent := by
  induction fuel generalizing p with
  | zero => exact hp
  | succ fuel ih =>
    rw [descend]
    cases hn : nearest? tie i p q with
    | some d => exact hp
    | none =>
      have hne : p₀ ≠ p := by
        rintro rfl
        rw [hn] at h
        cases h
      exact ih (by omega)

theorem contains_descend (fuel : Nat) : (descend tie i q fuel p).digits = 0 ∨
    i.contains (gridStep (descend tie i q fuel p).exponent q).2
      ((descend tie i q fuel p).digits * (gridStep (descend tie i q fuel p).exponent q).1) =
        true := by
  induction fuel generalizing p with
  | zero => exact .inl rfl
  | succ fuel ih =>
    rw [descend]
    cases hn : nearest? tie i p q with
    | some d => exact .inr (contains_of_nearest? hn)
    | none => exact ih

theorem contains_shortest (tie : Tie) (m : Nat) (q : Int) : (shortest tie m q).digits = 0 ∨
    (interval m q).contains (gridStep (shortest tie m q).exponent q).2
      ((shortest tie m q).digits * (gridStep (shortest tie m q).exponent q).1) = true :=
  contains_descend 24

theorem isSome_nearest?_thousands (hq : 11 ≤ q) :
    (nearest? tie (interval m q) 3 q).isSome = true := by
  have hgrid : gridStep 3 q = (1000, 1 <<< (q - 2).toNat) := by
    have hzero : (-(q - 2)).toNat = 0 := by omega
    simp only [gridStep, hzero]
    rfl
  -- The interval reaches two units, more than a thousand, above its middle.
  have hunit : 512 ≤ 1 <<< (q - 2).toNat := by
    rw [Nat.one_shiftLeft]
    exact Nat.pow_le_pow_right (n := 2) (by decide) (by omega : 9 ≤ (q - 2).toNat)
  apply isSome_nearest?
  rw [hgrid]
  generalize 1 <<< (q - 2).toNat = unit at hunit
  have hlow : (interval m q).low * unit ≤ (interval m q).mid * unit := by
    apply Nat.mul_le_mul_right
    simp only [interval]
    split <;> omega
  have hhigh : (interval m q).high * unit = (interval m q).mid * unit + 2 * unit :=
    Nat.add_mul _ _ _
  apply contains_of_lt
  · simp only
    omega
  · simp only
    omega

theorem le_of_contains_large (hm : m < 2 * Binary64.hiddenBit) (hp : 0 ≤ p)
    (hx : 9223372036854775808 ≤ Nat.pow 10 p.toNat * d)
    (h : (interval m q).contains (gridStep p q).2 (d * (gridStep p q).1) = true) : 11 ≤ q := by
  apply Int.not_lt.1
  intro hq
  have hzero : (-p).toNat = 0 := by omega
  -- At a smaller scale the whole interval lies below `2 ^ 63`.
  have hunit : (gridStep p q).2 ≤ 256 := by
    simp only [gridStep, hzero]
    rw [show Nat.pow 10 0 = 1 from rfl, Nat.one_shiftLeft]
    exact Nat.pow_le_pow_right (n := 2) (by decide) (by omega : (q - 2).toNat ≤ 8)
  have hstep : Nat.pow 10 p.toNat ≤ (gridStep p q).1 := by
    simp only [gridStep, Nat.shiftLeft_eq]
    exact Nat.le_mul_of_pos_right _ (Nat.two_pow_pos _)
  have hbit : Binary64.hiddenBit = 4503599627370496 := rfl
  have hle := le_of_contains h
  have hlarge : 9223372036854775808 ≤ d * (gridStep p q).1 := by
    rw [Nat.mul_comm] at hx
    exact Nat.le_trans hx (Nat.mul_le_mul_left d hstep)
  have hsmall : (interval m q).high * (gridStep p q).2 ≤ (4 * m + 2) * 256 :=
    Nat.mul_le_mul_left _ hunit
  omega

theorem three_le_exponent (hm : m < 2 * Binary64.hiddenBit) (he : 0 ≤ (shortest tie m q).exponent)
    (hn : 9223372036854775808 ≤
      Nat.pow 10 (shortest tie m q).exponent.toNat * (shortest tie m q).digits) :
    3 ≤ (shortest tie m q).exponent := by
  have hq : 11 ≤ q := by
    rcases contains_shortest tie m q with hzero | h
    · rw [hzero] at hn
      omega
    · exact le_of_contains_large hm he hn h
  apply le_exponent_descend (isSome_nearest?_thousands hq)
  omega

end

theorem mantissa_lt {x : Float} {negative : Bool} {m : Nat} {q : Int}
    (h : Binary64.ofFloat x = .finite negative m q) : m < 2 * Binary64.hiddenBit := by
  have hfraction : x.toBits.toNat % Binary64.hiddenBit < Binary64.hiddenBit :=
    Nat.mod_lt _ (by decide)
  simp only [Binary64.ofFloat] at h
  split at h
  · split at h
    · cases h
    · cases h
  · split at h
    · cases h
      omega
    · cases h
      omega

theorem thousand_dvd_of_unsigned?_text {x : Float} {n bound : Nat}
    (h : unsigned? bound (plain.text x).toList = some n) (hn : 9223372036854775808 ≤ n) :
    1000 ∣ n := by
  obtain ⟨m, q, hx, he, rfl⟩ := digits_of_unsigned?_text h (by omega)
  have hthree := three_le_exponent (mantissa_lt hx) he hn
  apply Nat.dvd_mul_right_of_dvd
  exact Nat.pow_dvd_pow 10 (by omega : 3 ≤ (shortest .away m q).exponent.toNat)

end FaultInjection.Decimal
