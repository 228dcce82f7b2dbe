import FaultInjection.Limit.Basic
import FaultInjection.Limit.Counter

namespace FaultInjection

structure Draws where
  draw : Nat → Nat
  taken : Nat

namespace Draws

def next (d : Draws) : Nat × Draws :=
  (d.draw d.taken, { d with taken := d.taken + 1 })

def constant (n : Nat) : Draws := ⟨fun _ => n, 0⟩

end Draws

structure Admission where
  verdict : Except LimitError Bool
  count : UInt64
  draws : Draws

namespace Limit

def isSpent (bound count : UInt64) : Bool :=
  bound ≤ count

def admitCount (bound count : UInt64) : Bool × UInt64 :=
  if isSpent bound count then (false, count) else Counter.increaseWithin bound count

def admission (limit : Except LimitError Limit) (count : UInt64) (draws : Draws) : Admission :=
  match limit with
  | .error e => ⟨.error e, count, draws⟩
  | .ok .unlimited => ⟨.ok true, (Counter.increase count).2, draws⟩
  | .ok (.count bound) =>
    let (admitted, count) := admitCount bound count
    ⟨.ok admitted, count, draws⟩
  | .ok (.percent share) =>
    let (n, draws) := draws.next
    if share < n then ⟨.ok false, count, draws⟩
    else ⟨.ok true, (Counter.increase count).2, draws⟩

theorem count_admission (limit : Except LimitError Limit) (count : UInt64) (draws : Draws) :
    (admission limit count draws).verdict = .ok true ∧
        (admission limit count draws).count = count + 1 ∨
      (admission limit count draws).verdict ≠ .ok true ∧
        (admission limit count draws).count = count := by
  match limit with
  | .error e => exact .inr ⟨nofun, rfl⟩
  | .ok .unlimited => exact .inl ⟨rfl, rfl⟩
  | .ok (.count bound) =>
    simp only [admission, admitCount, Counter.increaseWithin]
    split
    · exact .inr ⟨nofun, rfl⟩
    · split
      · exact .inl ⟨rfl, rfl⟩
      · exact .inr ⟨nofun, rfl⟩
  | .ok (.percent share) =>
    simp only [admission]
    split
    · exact .inr ⟨nofun, rfl⟩
    · exact .inl ⟨rfl, rfl⟩

end Limit

def Rule.admission (r : Rule) (count : UInt64) (draws : Draws) : Admission :=
  Limit.admission (Limit.of r) count draws

end FaultInjection
