import FaultInjection.Config.RuleSet

namespace FaultInjection

def Experiment.Named (key : String) (e : Experiment) : Prop :=
  e.rule.id = some key ∨ e.rule.id = none ∧ e.rule.identifier = key

instance (key : String) (e : Experiment) : Decidable (e.Named key) :=
  inferInstanceAs (Decidable (_ ∨ _))

theorem Experiment.answersTo_eq (key : String) (e : Experiment) :
    e.rule.answersTo key = decide (e.Named key) := by
  unfold Rule.answersTo
  apply Bool.eq_iff_iff.2
  split
  · next hid => simp [Named, hid]
  · next hid => simp [Named, hid]

/-- What is done with a registry. An experiment that is added exists already, with its count, and
may be registered already; `setCount` is what becomes of a count elsewhere. -/
inductive Registration
  | register (rule : Rule)
  | add (e : Experiment)
  | unregister (key : String)
  | unregisterTarget (target : String)
  | clear
  | load (s : RuleSet)
  | setCount (e : Experiment) (n : UInt64)

inductive Reply
  | registered (e : Experiment)
  | found (b : Bool)
  | dropped (n : Nat)
  | loaded (n : Except ConfigError Nat)
  | done

def Registry.perform (r : Registry) : Registration → Reply × Registry
  | .register rule => (.registered (r.register rule).1, (r.register rule).2)
  | .add e => (.done, r.add e)
  | .unregister key => (.found (r.unregister key).1, (r.unregister key).2)
  | .unregisterTarget target =>
    (.dropped (r.unregisterTarget target).1, (r.unregisterTarget target).2)
  | .clear => (.done, r.clear)
  | .load s =>
    match r.load s with
    | .ok (n, r) => (.loaded (.ok n), r)
    | .error e => (.loaded (.error e), r)
  | .setCount e n => (.done, r.setCount e n)

def Registry.performAll (r : Registry) : List Registration → List Reply × Registry
  | [] => ([], r)
  | op :: ops =>
    let (reply, r) := r.perform op
    let (replies, r) := performAll r ops
    (reply :: replies, r)

structure Roster where
  experiments : List Experiment
  count : Nat → UInt64
  next : Nat

namespace Roster

def empty : Roster := ⟨[], fun _ => 0, 0⟩

def setCount (l : Roster) (serial : Nat) (n : UInt64) : Roster :=
  { l with count := fun i => if serial = i then n else l.count i }

def add (l : Roster) (e : Experiment) : Roster :=
  { l with experiments := l.experiments ++ [e] }

def register (l : Roster) (rule : Rule) : Roster :=
  { l.setCount l.next 0 with next := l.next + 1 }.add ⟨l.next, rule⟩

def perform (l : Roster) : Registration → Reply × Roster
  | .register rule => (.registered ⟨l.next, rule⟩, l.register rule)
  | .add e => (.done, l.add e)
  | .unregister key =>
    (.found (l.experiments.any fun e => e.Named key),
      { l with experiments := l.experiments.filter fun e => ¬ e.Named key })
  | .unregisterTarget target =>
    (.dropped (l.experiments.countP fun e => e.rule.target = target),
      { l with experiments := l.experiments.filter fun e => e.rule.target ≠ target })
  | .clear => (.done, { l with experiments := [] })
  | .load s =>
    match s.toRules with
    | .ok rules => (.loaded (.ok rules.length), rules.foldl register l)
    | .error e => (.loaded (.error e), l)
  | .setCount e n => (.done, l.setCount e.serial n)

def performAll (l : Roster) : List Registration → List Reply × Roster
  | [] => ([], l)
  | op :: ops =>
    let (reply, l) := l.perform op
    let (replies, l) := performAll l ops
    (reply :: replies, l)

def forTarget (l : Roster) (target : String) : List Experiment :=
  l.experiments.filter fun e => e.rule.target = target

theorem forTarget_other {target key : String} (h : target ≠ key) (es : List Experiment) :
    (es.filter fun e => e.rule.target ≠ key).filter (fun e => e.rule.target = target) =
      es.filter fun e => e.rule.target = target := by
  rw [List.filter_filter]
  apply List.filter_congr
  intro e _
  by_cases he : e.rule.target = target
  · simp [he, h]
  · simp [he]

end Roster

structure Registry.Holds (r : Registry) (l : Roster) : Prop where
  forTarget : ∀ target, r.forTarget target = l.forTarget target
  nonempty : ∀ target es, r.groups.get? target = some es → es ≠ []
  count : ∀ i, r.counts.get i = l.count i
  next : r.next = l.next

namespace Registry

variable {r : Registry} {l : Roster}

theorem holds_empty : Holds empty Roster.empty where
  forTarget _ := rfl
  nonempty _ _ h := nomatch h
  count _ := rfl
  next := rfl

theorem Holds.add (h : r.Holds l) (e : Experiment) : (r.add e).Holds (l.add e) where
  forTarget target := by
    have ht := h.forTarget target
    by_cases he : target = e.rule.target
    · simpa [Roster.add, Roster.forTarget, he] using ht
    · simpa [Roster.add, Roster.forTarget, he, Ne.symm he] using ht
  nonempty target es hg := by
    change (r.groups.insert e.rule.target (r.forTarget e.rule.target ++ [e])).get? target = _ at hg
    by_cases he : target = e.rule.target
    · obtain rfl : r.forTarget e.rule.target ++ [e] = es := by simpa [he] using hg
      exact List.append_ne_nil_of_right_ne_nil _ (List.cons_ne_nil _ _)
    · exact h.nonempty target es (by grind)
  count := h.count
  next := h.next

theorem Holds.setCount (h : r.Holds l) (e : Experiment) (n : UInt64) :
    (r.setCount e n).Holds (l.setCount e.serial n) where
  forTarget := h.forTarget
  nonempty := h.nonempty
  count i := by
    change (r.counts.set e.serial n).get i = if e.serial = i then n else l.count i
    simp [h.count]
  next := h.next

theorem Holds.register (h : r.Holds l) (rule : Rule) :
    (r.register rule).2.Holds (l.register rule) := by
  have hfresh := h.setCount ⟨r.next, rule⟩ 0
  rw [Registry.register, Roster.register, ← h.next]
  apply Holds.add
  exact ⟨hfresh.forTarget, hfresh.nonempty, hfresh.count, rfl⟩

theorem Holds.registerAll (h : r.Holds l) (rules : List Rule) :
    (r.registerAll rules).Holds (rules.foldl Roster.register l) := by
  induction rules generalizing r l with
  | nil => exact h
  | cons rule rules ih => exact ih (h.register rule)

@[simp] theorem forTarget_unregister (r : Registry) (key target : String) :
    (r.unregister key).2.forTarget target =
      (r.forTarget target).filter fun e => !e.rule.answersTo key := by
  change (Dict.get? (Dict.filter _ _) target).getD [] = ((r.groups.get? target).getD []).filter _
  simp only [Dict.get?_filter, Dict.get?_map]
  cases r.groups.get? target with
  | none => rfl
  | some es =>
    change ((some (es.filter _)).filter _).getD [] = es.filter _
    -- A group that nothing is left of is dropped, which is to ask an empty one.
    cases es.filter fun e => !e.rule.answersTo key <;> rfl

theorem not_answersTo_eq (key : String) :
    (fun e : Experiment => !e.rule.answersTo key) = fun e => decide ¬ e.Named key := by
  funext e
  rw [Experiment.answersTo_eq, decide_not]

theorem Holds.unregister (h : r.Holds l) (key : String) :
    (r.unregister key).2.Holds (l.perform (.unregister key)).2 where
  forTarget target := by
    have ht := h.forTarget target
    rw [forTarget_unregister, not_answersTo_eq, ht]
    simp only [Roster.forTarget, Roster.perform, List.filter_filter]
    exact List.filter_congr fun e _ => Bool.and_comm _ _
  nonempty target es hg := by
    change Dict.get? (Dict.filter _ _) target = some es at hg
    rw [Dict.get?_filter] at hg
    intro he
    have hkept := (Option.filter_eq_some_iff.1 hg).2
    simp [he] at hkept
  count := h.count
  next := h.next

@[simp] theorem forTarget_unregisterTarget (r : Registry) (key target : String) :
    (r.unregisterTarget key).2.forTarget target =
      if target = key then [] else r.forTarget target := by
  change ((r.groups.erase key).get? target).getD [] = _
  rw [Dict.get?_erase]
  split <;> rfl

theorem Holds.unregisterTarget (h : r.Holds l) (key : String) :
    (r.unregisterTarget key).2.Holds (l.perform (.unregisterTarget key)).2 where
  forTarget target := by
    have ht := h.forTarget target
    rw [forTarget_unregisterTarget, ht]
    split
    · next hk =>
      subst hk
      simp [Roster.forTarget, Roster.perform, List.filter_filter]
    · next hk => exact (Roster.forTarget_other hk l.experiments).symm
  nonempty target es hg := by
    change (r.groups.erase key).get? target = some es at hg
    exact h.nonempty target es (by grind)
  count := h.count
  next := h.next

theorem Holds.clear (h : r.Holds l) : r.clear.Holds (l.perform .clear).2 where
  forTarget _ := rfl
  nonempty _ _ hg := nomatch hg
  count := h.count
  next := h.next

theorem size_of_groups {groups : List (String × List Experiment)} (hs : Entries.Sorted groups)
    {es : List Experiment}
    (h : ∀ target, (Entries.get? target groups).getD [] = es.filter fun e => e.rule.target = target)
    (n : Nat) : groups.foldl (fun n g => n + g.2.length) n = n + es.length := by
  induction groups generalizing es n with
  | nil =>
    cases es with
    | nil => rfl
    | cons e es =>
      have he := h e.rule.target
      simp [Entries.get?] at he
  | cons g groups ih =>
    obtain ⟨key, group⟩ := g
    obtain ⟨hlt, hsorted⟩ := List.pairwise_cons.1 hs
    have hgroup : group = es.filter fun e => e.rule.target = key := by
      simpa [Entries.get?] using h key
    have hrest : ∀ target, (Entries.get? target groups).getD [] =
        (es.filter fun e => e.rule.target ≠ key).filter fun e => e.rule.target = target := by
      intro target
      have ht := h target
      rw [List.filter_filter]
      by_cases hk : target = key
      · subst hk
        rw [Entries.get?_eq_none_of_lt hlt]
        simp
      · rw [Entries.get?, if_neg hk] at ht
        rw [ht, ← List.filter_filter]
        exact (Roster.forTarget_other hk es).symm
    have hlength : es.length = _ := List.length_eq_countP_add_countP fun e => e.rule.target = key
    rw [List.foldl_cons, ih hsorted hrest, hgroup, ← List.countP_eq_length_filter,
      ← List.countP_eq_length_filter]
    simp only [decide_eq_true_eq] at hlength
    simp only [ne_eq]
    omega

theorem Holds.size_eq (h : r.Holds l) : r.size = l.experiments.length := by
  have hs := size_of_groups r.groups.sorted h.forTarget 0
  rw [Nat.zero_add] at hs
  exact hs

theorem Holds.mem_targets (h : r.Holds l) (target : String) :
    target ∈ r.targets ↔ ∃ e ∈ l.experiments, e.rule.target = target := by
  have ht := h.forTarget target
  have hsome : (∃ e ∈ l.experiments, e.rule.target = target) ↔ r.forTarget target ≠ [] := by
    rw [ht, Roster.forTarget, ne_eq, List.filter_eq_nil_iff]
    simp
  rw [hsome, targets, Dict.mem_keys_iff, Registry.forTarget]
  cases hg : r.groups.get? target with
  | none => simp
  | some es => simp [h.nonempty target es hg]

theorem Holds.unregister_fst (h : r.Holds l) (key : String) :
    (r.unregister key).1 = l.experiments.any fun e => e.Named key := by
  have hafter : (r.unregister key).2.size = _ := (h.unregister key).size_eq
  change ((r.unregister key).2.size != r.size) = _
  rw [hafter, h.size_eq]
  apply Bool.eq_iff_iff.2
  rw [bne_iff_ne, ne_eq, Roster.perform, List.length_filter_eq_length_iff, List.any_eq_true]
  simp

theorem Holds.unregisterTarget_fst (h : r.Holds l) (target : String) :
    (r.unregisterTarget target).1 = l.experiments.countP fun e => e.rule.target = target := by
  change (r.forTarget target).length = _
  rw [h.forTarget, Roster.forTarget, List.countP_eq_length_filter]

theorem Holds.perform (h : r.Holds l) (op : Registration) :
    (r.perform op).1 = (l.perform op).1 ∧ (r.perform op).2.Holds (l.perform op).2 := by
  cases op with
  | register rule =>
    have he : (r.register rule).1 = ⟨l.next, rule⟩ := by
      rw [← h.next]
      rfl
    exact ⟨congrArg Reply.registered he, h.register rule⟩
  | add e => exact ⟨rfl, h.add e⟩
  | unregister key => exact ⟨congrArg Reply.found (h.unregister_fst key), h.unregister key⟩
  | unregisterTarget target =>
    exact ⟨congrArg Reply.dropped (h.unregisterTarget_fst target), h.unregisterTarget target⟩
  | clear => exact ⟨rfl, h.clear⟩
  | load s =>
    simp only [Registry.perform, Roster.perform, Registry.load]
    cases s.toRules with
    | error e => exact ⟨rfl, h⟩
    | ok rules => exact ⟨rfl, h.registerAll rules⟩
  | setCount e n => exact ⟨rfl, h.setCount e n⟩

theorem Holds.performAll (h : r.Holds l) (ops : List Registration) :
    (r.performAll ops).1 = (l.performAll ops).1 ∧
      (r.performAll ops).2.Holds (l.performAll ops).2 := by
  induction ops generalizing r l with
  | nil => exact ⟨rfl, h⟩
  | cons op ops ih =>
    obtain ⟨hreply, hop⟩ := h.perform op
    obtain ⟨hreplies, hops⟩ := ih hop
    refine ⟨?_, hops⟩
    simp only [Registry.performAll, Roster.performAll, hreply, hreplies]

/-- The registry refines one list of experiments: whatever is done with it, it replies as the list
does, and shows of the list what a target asks for, in the same order and with the same counts. -/
theorem refines_roster (ops : List Registration) :
    let after := Registry.empty.performAll ops
    let listed := Roster.empty.performAll ops
    let r := after.2
    let es := listed.2.experiments
    after.1 = listed.1 ∧
      (∀ target, r.forTarget target = es.filter fun e => e.rule.target = target) ∧
      (∀ e, r.count e = listed.2.count e.serial) ∧
      r.size = es.length ∧
      r.targets.Pairwise (· < ·) ∧
      ∀ target, target ∈ r.targets ↔ ∃ e ∈ es, e.rule.target = target := by
  intro after listed r es
  obtain ⟨hreplies, hr⟩ := holds_empty.performAll ops
  exact ⟨hreplies, hr.forTarget, fun e => hr.count e.serial, hr.size_eq, r.groups.keys_sorted,
    hr.mem_targets⟩

end Registry
end FaultInjection
