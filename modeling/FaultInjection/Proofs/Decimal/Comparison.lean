namespace FaultInjection.Decimal

open Float.Model

section Unpacked

variable {a b c : UnpackedFloat}

theorem compare_self (h : a.isNaN = false) : a.compare a = some .eq := by
  cases a with
  | notANumber => cases h
  | infinity s => cases s <;> rfl
  | zero s => rfl
  | finite s m e hm =>
    have hsame : (compare e e).then (compare m m) = .eq := by
      rw [Std.ReflOrd.compare_self, Std.ReflOrd.compare_self]
      rfl
    cases s with
    | negative => exact congrArg (fun o => some (Ordering.swap o)) hsame
    | positive => exact congrArg some hsame

theorem eq_of_compare (h : a.compare b = some .eq) :
    (∃ s t, a = .zero s ∧ b = .zero t) ∨ a = b := by
  cases a with
  | notANumber => cases h
  | infinity s =>
    cases b with
    | notANumber => cases h
    | infinity t =>
      cases s <;> cases t
      · exact .inr rfl
      · cases h
      · cases h
      · exact .inr rfl
    | zero t => cases s <;> cases h
    | finite t => cases s <;> cases h
  | zero s =>
    cases b with
    | notANumber => cases h
    | infinity t => cases t <;> cases h
    | zero t => exact .inl ⟨s, t, rfl, rfl⟩
    | finite t => cases t <;> cases h
  | finite s m e hm =>
    cases b with
    | notANumber => cases h
    | infinity t => cases t <;> cases h
    | zero t => cases s <;> cases h
    | finite t n f hn =>
      have hparts (heq : (compare e f).then (compare m n) = .eq) : e = f ∧ m = n := by
        obtain ⟨he, hm⟩ := Ordering.then_eq_eq.1 heq
        exact ⟨Std.LawfulEqOrd.eq_of_compare he, Std.LawfulEqOrd.eq_of_compare hm⟩
      cases s <;> cases t
      · obtain ⟨rfl, rfl⟩ := hparts (Ordering.swap_eq_eq.1 (Option.some.inj h))
        exact .inr rfl
      · cases h
      · cases h
      · obtain ⟨rfl, rfl⟩ := hparts (Option.some.inj h)
        exact .inr rfl

theorem compare_symm (h : a.compare b = some .eq) : b.compare a = some .eq := by
  rcases eq_of_compare h with ⟨s, t, rfl, rfl⟩ | rfl
  · rfl
  · exact h

theorem compare_trans (hab : a.compare b = some .eq) (hbc : b.compare c = some .eq) :
    a.compare c = some .eq := by
  rcases eq_of_compare hab with ⟨s, t, rfl, rfl⟩ | rfl
  · rcases eq_of_compare hbc with ⟨_, u, -, rfl⟩ | rfl
    · rfl
    · rfl
  · exact hbc

end Unpacked

section Packed

variable {spec : Format} {u : UnpackedFloat}

theorem isNaN_unpack_iff (bits : BitVec spec.numBits) :
    (UnpackedFloat.unpack spec bits).isNaN = true ↔
      UnpackedFloat.unpackExponent bits = -1#_ ∧
        UnpackedFloat.unpackMantissa bits ≠ 0#_ := by
  by_cases hlarge : UnpackedFloat.unpackExponent bits = -1#_
  · rw [and_iff_right hlarge]
    by_cases hzero : UnpackedFloat.unpackMantissa bits = 0#_
    · have hinfinity : UnpackedFloat.unpack spec bits = .infinity _ :=
        (if_pos hlarge).trans (if_pos hzero)
      rw [hinfinity]
      exact iff_of_false Bool.false_ne_true (Classical.not_not.2 hzero)
    · have hnan : UnpackedFloat.unpack spec bits = .notANumber :=
        (if_pos hlarge).trans (if_neg hzero)
      rw [hnan]
      exact iff_of_true rfl hzero
  · refine iff_of_false ?_ fun h => hlarge h.1
    by_cases hsmall : UnpackedFloat.unpackExponent bits = 0#_
    · by_cases hzero : UnpackedFloat.unpackMantissa bits = 0#_
      · have hnull : UnpackedFloat.unpack spec bits = .zero _ :=
          (if_neg hlarge).trans ((if_pos hsmall).trans (dif_pos hzero))
        rw [hnull]
        exact Bool.false_ne_true
      · have hfinite : UnpackedFloat.unpack spec bits = .finite _ _ _ _ :=
          (if_neg hlarge).trans ((if_pos hsmall).trans (dif_neg hzero))
        rw [hfinite]
        exact Bool.false_ne_true
    · have hfinite : UnpackedFloat.unpack spec bits = .finite _ _ _ _ :=
        (if_neg hlarge).trans (if_neg hsmall)
      rw [hfinite]
      exact Bool.false_ne_true

theorem ofNat_ne_largest {w e : Nat} (h : e < (-1#w).toNat) : BitVec.ofNat w e ≠ -1#_ := by
  intro heq
  have hle : (BitVec.ofNat w e).toNat ≤ e := by
    rw [BitVec.toNat_ofNat]
    exact Nat.mod_le _ _
  rw [heq] at hle
  omega

theorem isNaN_unpack_pack (h : u.isNaN = false) :
    (UnpackedFloat.unpack spec (UnpackedFloat.pack spec u)).isNaN = false := by
  apply eq_false_of_ne_true
  intro hn
  obtain ⟨he, hm⟩ := (isNaN_unpack_iff _).1 hn
  cases u with
  | notANumber => cases h
  | infinity s => exact hm UnpackedFloat.unpackMantissa_packComponents
  | zero s => exact hm UnpackedFloat.unpackMantissa_packComponents
  | finite s m e hpos =>
    delta UnpackedFloat.pack at he hm
    dsimp only at he hm
    split at he
    · next hbig =>
      rw [if_pos hbig] at hm
      exact hm UnpackedFloat.unpackMantissa_packComponents
    · next hsmall =>
      have hlargest := BitVec.toNat_allOnes (v := spec.exponentBits)
      rw [← BitVec.neg_one_eq_allOnes] at hlargest
      split at he
      · rw [UnpackedFloat.unpackExponent_packComponents] at he
        exact ofNat_ne_largest (by omega) he
      · rw [UnpackedFloat.unpackExponent_packComponents] at he
        have htwo := Nat.one_lt_two_pow (Nat.ne_of_gt spec.he)
        exact ofNat_ne_largest (by omega) he

theorem isNaN_dite {p : Prop} [Decidable p] {s : UnpackedFloat.Sign} {f : ¬p → UnpackedFloat}
    (hf : ∀ h, (f h).isNaN = false) : (dite p (fun _ => .zero s) f).isNaN = false := by
  by_cases h : p
  · rw [dif_pos h]
    rfl
  · rw [dif_neg h]
    exact hf h

theorem isNaN_roundWithAccuracy (s : UnpackedFloat.Sign) (m : Nat) (e : Int)
    (accuracy : UnpackedFloat.Accuracy) :
    (UnpackedFloat.roundWithAccuracy spec s m e accuracy).isNaN = false := by
  delta UnpackedFloat.roundWithAccuracy
  dsimp only
  exact isNaN_dite fun _ => rfl

theorem isNaN_round (s : UnpackedFloat.Sign) (m : Nat) (e : Int) :
    (UnpackedFloat.round spec s m e).isNaN = false :=
  isNaN_roundWithAccuracy s _ _ _

theorem isNaN_normalize (m e : Int) (s : UnpackedFloat.Sign) :
    (UnpackedFloat.normalize spec m e s).isNaN = false := by
  delta UnpackedFloat.normalize
  cases compare m 0 with
  | lt => exact isNaN_round _ _ _
  | eq => rfl
  | gt => exact isNaN_round _ _ _

end Packed

variable {x y z : Float}

theorem isNaN_ofInt64 (i : Int64) : Float.isNaN ⟨ofInt64 i⟩ = false :=
  isNaN_unpack_pack (isNaN_normalize _ _ _)

theorem beq_iff_compare :
    (x == y) = true ↔ x.toModel.unpack.compare y.toModel.unpack = some .eq := by
  change (x.toModel.unpack.compare y.toModel.unpack == some .eq) = true ↔ _
  rw [beq_iff_eq]

theorem beq_self_iff : (x == x) = true ↔ x.isNaN = false := by
  rw [beq_iff_compare]
  constructor
  · intro h
    change x.toModel.unpack.isNaN = false
    generalize x.toModel.unpack = u at h
    cases u with
    | notANumber => cases h
    | infinity _ | zero _ | finite _ _ _ _ => rfl
  · exact compare_self

instance instPartialEquivBEqFloat : PartialEquivBEq Float where
  symm h := beq_iff_compare.2 (compare_symm (beq_iff_compare.1 h))
  trans hab hbc := beq_iff_compare.2 (compare_trans (beq_iff_compare.1 hab) (beq_iff_compare.1 hbc))

end FaultInjection.Decimal
