import FaultInjection.Limit.Admission
import Mathlib.Data.List.Basic

/-!
Admissions that overlap. Each reads the count, claims a fire later and may take it back later
still; the count is then the number of fires that are held, in whatever order these steps come.
-/
namespace FaultInjection.Limit

inductive Phase
  | checked
  | refused
  | granted
  | takenBack
  deriving DecidableEq

structure Traffic where
  count : UInt64
  phases : List Phase

inductive Step
  | check
  | claim (i : Nat)
  | takeBack (i : Nat)

namespace Traffic

def fresh : Traffic := ⟨0, []⟩

def step? (bound : UInt64) (t : Traffic) : Step → Option Traffic
  | .check =>
    some { t with phases := t.phases ++ [if isSpent bound t.count then .refused else .checked] }
  | .claim i =>
    if t.phases[i]? = some .checked then
      let (granted, count) := Counter.increaseWithin bound t.count
      some ⟨count, t.phases.set i (if granted then .granted else .refused)⟩
    else none
  | .takeBack i =>
    if t.phases[i]? = some .granted then
      some ⟨Counter.decrease t.count, t.phases.set i .takenBack⟩
    else none

def run? (bound : UInt64) : Traffic → List Step → Option Traffic
  | t, [] => some t
  | t, s :: ss => (t.step? bound s).bind fun u => run? bound u ss

def held (t : Traffic) : Nat := t.phases.count .granted

def returned (t : Traffic) : Nat := t.phases.count .takenBack

def granted (t : Traffic) : Nat :=
  t.phases.countP fun p => p = .granted || p = .takenBack

theorem granted_eq (t : Traffic) : t.granted = t.held + t.returned := by
  simp only [granted, held, returned]
  induction t.phases with
  | nil => rfl
  | cons p ps ih => cases p <;> simp [ih] <;> omega

def alone (bound : UInt64) (t : Traffic) : List Step :=
  .check :: if isSpent bound t.count then [] else [.claim t.phases.length]

theorem run?_alone (bound : UInt64) (t : Traffic) :
    t.run? bound (t.alone bound) = some ⟨(admitCount bound t.count).2,
      t.phases ++ [if (admitCount bound t.count).1 then .granted else .refused]⟩ := by
  by_cases hs : isSpent bound t.count = true
  · simp [alone, run?, step?, admitCount, hs]
  · simp [alone, run?, step?, admitCount, hs]

theorem count_set_add {ps : List Phase} {i : Nat} {p : Phase} (h : ps[i]? = some p)
    (q a : Phase) :
    (ps.set i q).count a + (if p = a then 1 else 0) = ps.count a + if q = a then 1 else 0 := by
  obtain ⟨hi, hp⟩ := List.getElem?_eq_some_iff.1 h
  have hle : (if p = a then 1 else 0) ≤ ps.count a := by
    split
    · next he => exact List.count_pos_iff.2 (he ▸ hp ▸ List.getElem_mem hi)
    · omega
  rw [List.count_set hi, hp]
  simp only [beq_iff_eq]
  omega

structure Balanced (bound : UInt64) (t : Traffic) : Prop where
  count_eq : t.count.toNat = t.held
  count_le : t.count ≤ bound

theorem balanced_fresh (bound : UInt64) : Balanced bound fresh :=
  ⟨rfl, UInt64.zero_le⟩

theorem balanced_check {bound : UInt64} {t : Traffic} (h : Balanced bound t) {p : Phase}
    (hp : p ≠ .granted) : Balanced bound { t with phases := t.phases ++ [p] } := by
  refine ⟨?_, h.count_le⟩
  rw [h.count_eq]
  simp [held, List.count_append, hp]

theorem balanced_claim {bound : UInt64} {t : Traffic} (h : Balanced bound t) {i : Nat}
    (hi : t.phases[i]? = some .checked) :
    Balanced bound ⟨(Counter.increaseWithin bound t.count).2,
      t.phases.set i (if (Counter.increaseWithin bound t.count).1 then .granted else .refused)⟩ := by
  have hc := h.count_eq
  by_cases hlt : t.count < bound
  · have hs := Counter.toNat_succ (Counter.ne_largest_of_lt hlt)
    have hp := count_set_add hi .granted .granted
    simp only [Counter.increaseWithin, hlt, if_true]
    constructor
    · simp only [held, reduceCtorEq, if_false, if_true] at hc hp ⊢
      omega
    · rw [UInt64.le_iff_toNat_le, hs]
      exact UInt64.lt_iff_toNat_lt.1 hlt
  · have hp := count_set_add hi .refused .granted
    simp only [Counter.increaseWithin, hlt, if_false, Bool.false_eq_true]
    refine ⟨?_, h.count_le⟩
    simp only [held, reduceCtorEq, if_false] at hc hp ⊢
    omega

theorem balanced_takeBack {bound : UInt64} {t : Traffic} (h : Balanced bound t) {i : Nat}
    (hi : t.phases[i]? = some .granted) :
    Balanced bound ⟨Counter.decrease t.count, t.phases.set i .takenBack⟩ := by
  have hc := h.count_eq
  have hp := count_set_add hi .takenBack .granted
  have hd := Counter.toNat_decrease t.count
  constructor
  · simp only [held, reduceCtorEq, if_false, if_true] at hc hp ⊢
    omega
  · have hle := UInt64.le_iff_toNat_le.1 h.count_le
    change Counter.decrease t.count ≤ bound
    rw [UInt64.le_iff_toNat_le, hd]
    omega

theorem balanced_step {bound : UInt64} {t u : Traffic} (h : Balanced bound t) {s : Step}
    (hs : t.step? bound s = some u) : Balanced bound u := by
  cases s with
  | check =>
    simp only [step?, Option.some.injEq] at hs
    subst hs
    apply balanced_check h
    split <;> simp
  | claim i =>
    simp only [step?] at hs
    split at hs
    · next hi =>
      simp only [Option.some.injEq] at hs
      subst hs
      exact balanced_claim h hi
    · simp at hs
  | takeBack i =>
    simp only [step?] at hs
    split at hs
    · next hi =>
      simp only [Option.some.injEq] at hs
      subst hs
      exact balanced_takeBack h hi
    · simp at hs

theorem balanced_run {bound : UInt64} {t u : Traffic} (h : Balanced bound t) {steps : List Step}
    (hr : t.run? bound steps = some u) : Balanced bound u := by
  induction steps generalizing t with
  | nil =>
    simp only [run?, Option.some.injEq] at hr
    exact hr ▸ h
  | cons s ss ih =>
    obtain ⟨v, hv, hu⟩ := Option.bind_eq_some_iff.1 hr
    exact ih (balanced_step h hv) hu

theorem admitCount_fst (bound count : UInt64) :
    (admitCount bound count).1 = decide (count < bound) := by
  by_cases hlt : count < bound
  · simp [admitCount, isSpent, Counter.increaseWithin, UInt64.not_le.2 hlt, hlt]
  · simp [admitCount, isSpent, UInt64.not_lt.1 hlt, hlt]

theorem Balanced.count_lt_iff {bound : UInt64} {t : Traffic} (h : Balanced bound t) :
    t.count < bound ↔ t.granted - t.returned < bound.toNat := by
  rw [UInt64.lt_iff_toNat_lt, h.count_eq, granted_eq, Nat.add_sub_cancel]

theorem granted_claim {bound : UInt64} {t u : Traffic} {i : Nat}
    (hu : t.step? bound (.claim i) = some u) :
    u.phases[i]? = some .granted ↔ t.count < bound := by
  simp only [step?] at hu
  split at hu
  · next hi =>
    obtain ⟨hlt, -⟩ := List.getElem?_eq_some_iff.1 hi
    simp only [Option.some.injEq] at hu
    subst hu
    by_cases hb : t.count < bound <;> simp [Counter.increaseWithin, hb, hlt]
  · simp at hu

theorem held_takeBack {bound : UInt64} {t u : Traffic} {i : Nat}
    (hu : t.step? bound (.takeBack i) = some u) : u.held + 1 = t.held := by
  simp only [step?] at hu
  split at hu
  · next hi =>
    simp only [Option.some.injEq] at hu
    subst hu
    simpa [held] using count_set_add hi .takenBack .granted
  · simp at hu

theorem admission_of_count {r : Rule} {bound : UInt64} (hr : Limit.of r = .ok (.count bound))
    (count : UInt64) (draws : Draws) :
    r.admission count draws =
      ⟨.ok (admitCount bound count).1, (admitCount bound count).2, draws⟩ := by
  simp [Rule.admission, hr, admission]

/-- A bounded count under overlapping admissions: at every point it is the number of fires granted
less those taken back, which never passes the bound; a fire is granted exactly if that number is
below the bound, by a claim on its own as well as by an admission that nothing interrupts. -/
theorem count_of_run {r : Rule} {bound : UInt64} (hr : Limit.of r = .ok (.count bound))
    {steps : List Step} {t : Traffic} (ht : fresh.run? bound steps = some t) :
    t.returned ≤ t.granted ∧ t.count.toNat = t.granted - t.returned ∧ t.count ≤ bound ∧
    (∀ i u, t.step? bound (.claim i) = some u →
      (u.phases[i]? = some .granted ↔ t.granted - t.returned < bound.toNat)) ∧
    (∀ i u, t.step? bound (.takeBack i) = some u →
      u.granted - u.returned + 1 = t.granted - t.returned ∧
        ∀ draws, (r.admission u.count draws).verdict = .ok true) ∧
    ∀ draws, (r.admission t.count draws).verdict =
        .ok (decide (t.granted - t.returned < bound.toNat)) ∧
      t.run? bound (t.alone bound) = some ⟨(r.admission t.count draws).count,
        t.phases ++ [if t.granted - t.returned < bound.toNat then .granted else .refused]⟩ := by
  have hb : Balanced bound t := balanced_run (balanced_fresh bound) ht
  have hheld : t.granted - t.returned = t.held := by rw [granted_eq, Nat.add_sub_cancel]
  refine ⟨?_, ?_, hb.count_le, ?_, ?_, ?_⟩
  · rw [granted_eq]
    exact Nat.le_add_left _ _
  · rw [hheld]
    exact hb.count_eq
  · intro i u hu
    rw [granted_claim hu]
    exact hb.count_lt_iff
  · intro i u hu
    have hu' : Balanced bound u := balanced_step hb hu
    have hone := held_takeBack hu
    have hlt : u.count < bound := by
      have hle := UInt64.le_iff_toNat_le.1 hb.count_le
      have ht := hb.count_eq
      rw [UInt64.lt_iff_toNat_lt, hu'.count_eq]
      omega
    refine ⟨?_, fun draws => ?_⟩
    · rw [hheld, granted_eq, Nat.add_sub_cancel]
      exact hone
    · rw [admission_of_count hr]
      simp [admitCount_fst, hlt]
  · intro draws
    rw [admission_of_count hr, run?_alone]
    simp only [admitCount_fst, hb.count_lt_iff, decide_eq_true_eq, and_self]

theorem count_of_run_contended :
    let r := ({ target := "t", action := "a" } : Rule).withCondition "effect-count" (.str "1")
    let t : Traffic := ⟨0, [.refused, .takenBack]⟩
    Limit.of r = .ok (.count 1) ∧
      fresh.run? 1 [.check, .check, .claim 1, .claim 0, .takeBack 1] = some t ∧
      t.count.toNat = t.granted - t.returned ∧
      ∀ draws, (r.admission t.count draws).verdict = .ok true := by
  intro r t
  have hr : Limit.of r = .ok (.count 1) := by rfl
  have ht : fresh.run? 1 [.check, .check, .claim 1, .claim 0, .takeBack 1] = some t := by rfl
  obtain ⟨-, hcount, -, -, -, hroom⟩ := count_of_run hr ht
  exact ⟨hr, ht, hcount, fun draws => (hroom draws).1⟩

end Traffic
end FaultInjection.Limit
