import FaultInjection.Proofs.Limit.Effective
import FaultInjection.Proofs.Limit.Traffic

namespace FaultInjection

structure Standing where
  count : UInt64
  draws : Draws

namespace Admission

def standing (a : Admission) : Standing :=
  ⟨a.count, a.draws⟩

def isGranted (a : Admission) : Bool :=
  match a.verdict with
  | .ok granted => granted
  | .error _ => false

theorem isGranted_iff (a : Admission) : a.isGranted = true ↔ a.verdict = .ok true := by
  unfold isGranted
  cases a.verdict <;> simp

end Admission

namespace Limit

def drawn : Except LimitError Limit → Nat
  | .ok (.percent _) => 1
  | _ => 0

def answer (limit : Except LimitError Limit) (s : Standing) (i : Nat) : Except LimitError Bool :=
  match limit with
  | .error e => .error e
  | .ok .unlimited => .ok true
  | .ok (.count bound) => .ok (i < bound.toNat - s.count.toNat)
  | .ok (.percent share) => .ok (s.draws.draw (s.draws.taken + i) ≤ share)

theorem draws_admission (limit : Except LimitError Limit) (count : UInt64) (draws : Draws) :
    (admission limit count draws).draws = { draws with taken := draws.taken + drawn limit } := by
  match limit with
  | .error e => rfl
  | .ok .unlimited => rfl
  | .ok (.count bound) => rfl
  | .ok (.percent share) =>
    simp only [admission]
    split <;> rfl

theorem verdict_percent (share : Nat) (count : UInt64) (draws : Draws) :
    (admission (.ok (.percent share)) count draws).verdict =
      .ok (decide (draws.next.1 ≤ share)) := by
  simp only [admission]
  by_cases h : share < draws.next.1
  · rw [if_pos h, decide_eq_false (Nat.not_le.2 h)]
  · rw [if_neg h, decide_eq_true (Nat.not_lt.1 h)]

end Limit

namespace Rule

variable (r : Rule) (s : Standing)

def ask (r : Rule) (s : Standing) : Admission :=
  r.admission s.count s.draws

def standing (r : Rule) (s : Standing) : Nat → Standing
  | 0 => s
  | n + 1 => (r.ask (standing r s n)).standing

def granted (r : Rule) (s : Standing) (n : Nat) : Nat :=
  (List.range n).countP fun i => (r.ask (r.standing s i)).isGranted

theorem count_standing_succ (n : Nat) :
    (r.standing s (n + 1)).count = (r.ask (r.standing s n)).count :=
  rfl

theorem granted_succ (n : Nat) :
    r.granted s (n + 1) = r.granted s n + if (r.ask (r.standing s n)).isGranted then 1 else 0 := by
  rw [granted, List.range_succ, List.countP_append, List.countP_singleton, granted]

theorem count_of_granted (h : (r.ask s).verdict = .ok true) (hc : s.count ≠ Counter.largest) :
    (r.ask s).count.toNat = s.count.toNat + 1 := by
  rcases Limit.count_admission (Limit.of r) s.count s.draws with ⟨-, hcount⟩ | ⟨hv, -⟩
  · rw [ask, admission, hcount, Counter.toNat_succ hc]
  · exact absurd h hv

theorem count_of_not_granted (h : (r.ask s).verdict ≠ .ok true) : (r.ask s).count = s.count := by
  rcases Limit.count_admission (Limit.of r) s.count s.draws with ⟨hv, -⟩ | ⟨-, hcount⟩
  · exact absurd hv h
  · exact hcount

theorem count_standing {n : Nat} (h : ∀ i < n, (r.standing s i).count ≠ Counter.largest) :
    (r.standing s n).count.toNat = s.count.toNat + r.granted s n := by
  induction n with
  | zero => rfl
  | succ n ih =>
    have hbefore := ih fun i hi => h i (Nat.lt_succ_of_lt hi)
    rw [granted_succ, count_standing_succ]
    cases hg : (r.ask (r.standing s n)).isGranted with
    | true =>
      have hv := (Admission.isGranted_iff _).1 hg
      rw [r.count_of_granted _ hv (h n (Nat.lt_succ_self n)), hbefore]
      rfl
    | false =>
      have hv : (r.ask (r.standing s n)).verdict ≠ .ok true := by
        rw [ne_eq, ← Admission.isGranted_iff, hg]
        nofun
      rw [r.count_of_not_granted _ hv, hbefore]
      rfl

theorem draws_standing (n : Nat) :
    (r.standing s n).draws =
      { s.draws with taken := s.draws.taken + n * Limit.drawn (Limit.of r) } := by
  induction n with
  | zero => simp [standing]
  | succ n ih =>
    have hdraws : (r.standing s (n + 1)).draws = (r.ask (r.standing s n)).draws := rfl
    rw [hdraws, ask, admission, Limit.draws_admission, ih, Nat.succ_mul, Nat.add_assoc]

variable {r s}

theorem verdict_ask_of_count {bound : UInt64} (hr : Limit.of r = .ok (.count bound)) :
    (r.ask s).verdict = .ok (decide (s.count < bound)) := by
  rw [ask, Limit.Traffic.admission_of_count hr, Limit.Traffic.admitCount_fst]

theorem count_standing_of_count {bound : UInt64} (hr : Limit.of r = .ok (.count bound)) (n : Nat) :
    (r.standing s n).count.toNat = s.count.toNat + min n (bound.toNat - s.count.toNat) := by
  induction n with
  | zero => simp [standing]
  | succ n ih =>
    have hverdict := verdict_ask_of_count (s := r.standing s n) hr
    rw [count_standing_succ]
    by_cases hlt : (r.standing s n).count < bound
    · have hnat := UInt64.lt_iff_toNat_lt.1 hlt
      have hgranted : (r.ask (r.standing s n)).verdict = .ok true := by simp [hverdict, hlt]
      rw [r.count_of_granted _ hgranted (Counter.ne_largest_of_lt hlt)]
      omega
    · have hnat := mt UInt64.lt_iff_toNat_lt.2 hlt
      have hrefused : (r.ask (r.standing s n)).verdict ≠ .ok true := by simp [hverdict, hlt]
      rw [r.count_of_not_granted _ hrefused]
      omega

theorem verdict_ask_standing (r : Rule) (s : Standing) (i : Nat) :
    (r.ask (r.standing s i)).verdict = Limit.answer (Limit.of r) s i := by
  match hl : Limit.of r with
  | .error e => simp [ask, admission, hl, Limit.admission, Limit.answer]
  | .ok .unlimited => simp [ask, admission, hl, Limit.admission, Limit.answer]
  | .ok (.count bound) =>
    have hcount := count_standing_of_count (s := s) hl i
    rw [verdict_ask_of_count hl, Limit.answer]
    congr 1
    rw [decide_eq_decide, UInt64.lt_iff_toNat_lt]
    omega
  | .ok (.percent share) =>
    have hdraws := r.draws_standing s i
    rw [hl] at hdraws
    rw [ask, admission, hl, Limit.verdict_percent, hdraws, Limit.drawn, Nat.mul_one]
    rfl

theorem granted_of_percent {share : Nat} (hr : Limit.of r = .ok (.percent share)) (n : Nat) :
    r.granted s n = (List.range n).countP fun i => s.draws.draw (s.draws.taken + i) ≤ share := by
  apply List.countP_congr
  intro i _
  rw [Admission.isGranted_iff, verdict_ask_standing, hr, Limit.answer]
  simp

theorem granted_of_count {bound : UInt64} (hr : Limit.of r = .ok (.count bound)) (n : Nat) :
    r.granted s n = min n (bound.toNat - s.count.toNat) := by
  induction n with
  | zero => simp [granted]
  | succ n ih =>
    have hn : (r.ask (r.standing s n)).isGranted = true ↔ n < bound.toNat - s.count.toNat := by
      rw [Admission.isGranted_iff, verdict_ask_standing, hr, Limit.answer]
      simp
    rw [granted_succ, ih]
    simp only [hn]
    split <;> omega

/-- A rule admits as its limit says, call after call. Each call that is admitted counts one fire, and
no other does; each takes a draw if the limit is a percentage, and else none. So of a percentage as
many calls are admitted as there are draws within it, and of a count those that are left of it. A
valid count is the limit whatever else the rule states. -/
theorem admissions_follow_limit (r : Rule) (s : Standing) :
    let limit := Limit.of r
    (∀ i, let before := r.standing s i
      let a := r.ask before
      a.verdict = Limit.answer limit s i ∧
      (a.verdict = .ok true → before.count ≠ Counter.largest →
        a.count.toNat = before.count.toNat + 1) ∧
      (a.verdict ≠ .ok true → a.count = before.count) ∧
      a.draws = { before.draws with taken := before.draws.taken + Limit.drawn limit }) ∧
    (∀ n, (∀ i < n, (r.standing s i).count ≠ Counter.largest) →
      (r.standing s n).count.toNat = s.count.toNat + r.granted s n) ∧
    (∀ share, limit = .ok (.percent share) → ∀ n, r.granted s n =
      (List.range n).countP fun i => s.draws.draw (s.draws.taken + i) ≤ share) ∧
    (∀ bound, limit = .ok (.count bound) → ∀ n,
      r.granted s n = min n (bound.toNat - s.count.toNat)) ∧
    ∀ text bound, Limit.declared? (r.condition? Key.effectCount) = some text →
      Limit.parseCount text = .ok bound →
      limit = .ok (.count bound) ∧
      ∀ other : Rule, other.condition? Key.effectCount = r.condition? Key.effectCount →
        other.ask = r.ask := by
  intro limit
  refine ⟨fun i => ?_, fun n h => ?_, fun share hr => ?_, fun bound hr => ?_, ?_⟩
  · refine ⟨r.verdict_ask_standing s i, r.count_of_granted _, r.count_of_not_granted _, ?_⟩
    exact Limit.draws_admission limit _ _
  · exact r.count_standing s h
  · exact granted_of_percent hr
  · exact granted_of_count hr
  · intro text bound htext hbound
    have hcount : ∀ other : Rule,
        other.condition? Key.effectCount = r.condition? Key.effectCount →
        Limit.of other = .ok (.count bound) := by
      intro other ho
      rw [Limit.of_eq_of_count (ho ▸ htext), hbound]
      rfl
    refine ⟨hcount r rfl, fun other ho => ?_⟩
    funext before
    rw [ask, ask, admission, admission, hcount other ho, hcount r rfl]

theorem admissions_follow_limit_counted :
    let drawn := ({ target := "t", action := "a" } : Rule).withCondition "effect-percent" (.str "30")
    let counted := drawn.withCondition "effectCount" (.str " 3 ")
    let s : Standing := ⟨2, ⟨fun i => 29 + i, 0⟩⟩
    Limit.of drawn = .ok (.percent 30) ∧ Limit.of counted = .ok (.count 3) ∧
      (∀ i < 5, (counted.standing s i).count ≠ Counter.largest) ∧
      drawn.granted s 5 = 2 ∧ (drawn.ask (drawn.standing s 1)).verdict = .ok true ∧
      counted.granted s 5 = 1 ∧ (counted.standing s 5).count.toNat = 3 := by
  intro drawn counted s
  have hdrawn : Limit.of drawn = .ok (.percent 30) := rfl
  have htext : Limit.declared? (counted.condition? Key.effectCount) = some "3" := rfl
  have hlow : ∀ i < 5, (counted.standing s i).count ≠ Counter.largest := by decide
  obtain ⟨hverdict, -, hpercent, -, -⟩ := admissions_follow_limit drawn s
  obtain ⟨-, htotal, -, hcount, hdeclared⟩ := admissions_follow_limit counted s
  have hcounted : Limit.of counted = .ok (.count 3) := (hdeclared "3" 3 htext rfl).1
  have hone : counted.granted s 5 = 1 := hcount 3 hcounted 5
  refine ⟨hdrawn, hcounted, hlow, hpercent 30 hdrawn 5, (hverdict 1).1, hone, ?_⟩
  rw [htotal 5 hlow, hone]
  rfl

end Rule
end FaultInjection
