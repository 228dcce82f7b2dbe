namespace FaultInjection.Counter

def largest : UInt64 := 18446744073709551615

/-- Counts one more. The count that is reported stays at the largest value where the stored one
starts again from zero. -/
def increase (count : UInt64) : UInt64 × UInt64 :=
  (if count = largest then largest else count + 1, count + 1)

def increaseWithin (bound count : UInt64) : Bool × UInt64 :=
  if count < bound then (true, count + 1) else (false, count)

def decrease (count : UInt64) : UInt64 :=
  if count = 0 then 0 else count - 1

theorem toNat_succ {count : UInt64} (h : count ≠ largest) :
    (count + 1).toNat = count.toNat + 1 := by
  have hlt := UInt64.toNat_lt count
  have hne : count.toNat ≠ 18446744073709551615 := fun he => h (UInt64.toNat_inj.1 he)
  rw [UInt64.toNat_add]
  change (count.toNat + 1) % 2 ^ 64 = _
  omega

theorem ne_largest_of_lt {count bound : UInt64} (h : count < bound) : count ≠ largest := by
  intro he
  have hlt := UInt64.lt_iff_toNat_lt.1 h
  have hb := UInt64.toNat_lt bound
  rw [he] at hlt
  change 18446744073709551615 < _ at hlt
  omega

theorem toNat_decrease (count : UInt64) : (decrease count).toNat = count.toNat - 1 := by
  rw [decrease]
  split
  · next h => subst h; rfl
  · next h =>
    have hpos : (1 : UInt64) ≤ count := by
      rw [UInt64.le_iff_toNat_le]
      have : count.toNat ≠ 0 := fun h0 => h (UInt64.toNat_inj.1 h0)
      change 1 ≤ _
      omega
    exact UInt64.toNat_sub_of_le _ _ hpos

theorem decrease_succ {count : UInt64} (h : count ≠ largest) : decrease (count + 1) = count := by
  apply UInt64.toNat_inj.1
  rw [toNat_decrease, toNat_succ h, Nat.add_sub_cancel]

end FaultInjection.Counter
