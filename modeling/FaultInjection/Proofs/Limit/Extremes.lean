import FaultInjection.Limit.Admission

namespace FaultInjection.Counter

variable {count bound : UInt64}

def update (f : UInt64 → Option UInt64) (count : UInt64) : Option UInt64 × UInt64 :=
  match f count with
  | some after => (some count, after)
  | none => (none, count)

def takeBack (count : UInt64) : UInt64 × UInt64 :=
  let (previous, after) := update (fun n => some (decrease n)) count
  (decrease (previous.getD 0), after)

def succ? (count : UInt64) : Option UInt64 :=
  if count = largest then none else some (count + 1)

def grant (bound count : UInt64) : Bool × UInt64 :=
  let (previous, after) := update (fun n => if n < bound then succ? n else none) count
  (previous.isSome, after)

theorem takeBack_eq (count : UInt64) : takeBack count = (decrease count, decrease count) := rfl

theorem grant_eq (bound count : UInt64) : grant bound count = increaseWithin bound count := by
  by_cases h : count < bound
  · simp [grant, update, increaseWithin, succ?, h, ne_largest_of_lt h]
  · simp [grant, update, increaseWithin, h]

theorem reported_eq_iff (count : UInt64) :
    (increase count).1 = (increase count).2 ↔ count ≠ largest := by
  by_cases h : count = largest
  · subst h
    decide
  · simp [increase, h]

theorem le_increase_iff (count : UInt64) : count ≤ (increase count).2 ↔ count ≠ largest := by
  by_cases h : count = largest
  · subst h
    decide
  · refine iff_of_true ?_ h
    rw [UInt64.le_iff_toNat_le, increase, toNat_succ h]
    exact Nat.le_succ _

theorem decrease_succ_iff (count : UInt64) : decrease (count + 1) = count ↔ count ≠ largest := by
  by_cases h : count = largest
  · subst h
    decide
  · exact iff_of_true (decrease_succ h) h

theorem increaseWithin_of_lt (h : count < bound) :
    increaseWithin bound count = (true, count + 1) := by
  rw [increaseWithin, if_pos h]

theorem increaseWithin_of_not_lt (h : ¬ count < bound) :
    increaseWithin bound count = (false, count) := by
  rw [increaseWithin, if_neg h]

theorem increaseWithin_le_max (bound count : UInt64) :
    (increaseWithin bound count).2.toNat ≤ max bound.toNat count.toNat := by
  by_cases h : count < bound
  · have hlt := UInt64.lt_iff_toNat_lt.1 h
    rw [increaseWithin_of_lt h, toNat_succ (ne_largest_of_lt h)]
    omega
  · rw [increaseWithin_of_not_lt h]
    exact Nat.le_max_right _ _

theorem decrease_admission_iff {limit : Except LimitError Limit} {draws : Draws}
    (h : (Limit.admission limit count draws).verdict = .ok true) :
    decrease (Limit.admission limit count draws).count = count ↔ count ≠ largest := by
  rcases Limit.count_admission limit count draws with ⟨-, hcount⟩ | ⟨hv, -⟩
  · rw [hcount]
    exact decrease_succ_iff count
  · exact absurd h hv

/-- At the largest count one more is reported wrongly, lowers the count and cannot be taken back; at
every other count none of this is so. Under a bound, and where a fire is taken back, the count is
exact throughout. -/
theorem exact_iff_not_largest (bound count : UInt64) :
    ((increase count).1 = (increase count).2 ↔ count ≠ largest) ∧
    (count ≤ (increase count).2 ↔ count ≠ largest) ∧
    (decrease (increase count).2 = count ↔ count ≠ largest) ∧
    (increaseWithin bound count).2.toNat ≤ max bound.toNat count.toNat ∧
    grant bound count = increaseWithin bound count ∧
    ((increaseWithin bound count).1 = true →
      (increaseWithin bound count).2.toNat = count.toNat + 1 ∧
        decrease (increaseWithin bound count).2 = count) ∧
    ((increaseWithin bound count).1 = false → (increaseWithin bound count).2 = count) ∧
    takeBack count = (decrease count, decrease count) ∧
    ∀ (r : Rule) (draws : Draws), (r.admission count draws).verdict = .ok true →
      (decrease (r.admission count draws).count = count ↔ count ≠ largest) := by
  refine ⟨reported_eq_iff count, le_increase_iff count, decrease_succ_iff count,
    increaseWithin_le_max bound count, grant_eq bound count, ?_, ?_, takeBack_eq count, ?_⟩
  · by_cases hlt : count < bound
    · have hne := ne_largest_of_lt hlt
      rw [increaseWithin_of_lt hlt]
      exact fun _ => ⟨toNat_succ hne, decrease_succ hne⟩
    · rw [increaseWithin_of_not_lt hlt]
      exact nofun
  · by_cases hlt : count < bound
    · rw [increaseWithin_of_lt hlt]
      exact nofun
    · rw [increaseWithin_of_not_lt hlt]
      exact fun _ => rfl
  · intro r draws h
    exact decrease_admission_iff h

theorem exact_iff_not_largest_below :
    let r : Rule := { target := "t", action := "a" }
    let count : UInt64 := 18446744073709551614
    let granted := increaseWithin largest count
    (r.admission count (.constant 1)).verdict = .ok true ∧ granted.1 = true ∧
      granted.2 = largest ∧ decrease granted.2 = count ∧ (increase count).1 = largest ∧
      decrease (r.admission count (.constant 1)).count = count := by
  intro r count granted
  have hne : count ≠ largest := by decide
  have hgranted : granted.1 = true := by decide
  have hadmitted : (r.admission count (.constant 1)).verdict = .ok true := rfl
  obtain ⟨hreported, -, -, -, -, hwithin, -, -, hadmission⟩ := exact_iff_not_largest largest count
  refine ⟨hadmitted, hgranted, by decide, (hwithin hgranted).2, ?_, ?_⟩
  · exact hreported.2 hne
  · exact (hadmission r _ hadmitted).2 hne

theorem increase_largest :
    increase largest = (largest, 0) ∧ (increase largest).1 ≠ (increase largest).2 ∧
      (increase largest).2 < largest ∧ decrease (increase largest).2 ≠ largest := by
  decide

end FaultInjection.Counter
