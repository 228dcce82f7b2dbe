import FaultInjection.Proofs.Registry.Roster
import Mathlib.Data.List.Nodup

namespace FaultInjection

def Experiment.numberedFrom : (serial : Nat) → List Rule → List Experiment
  | _, [] => []
  | serial, rule :: rules => ⟨serial, rule⟩ :: numberedFrom (serial + 1) rules

namespace Registry

/-- What can come of a registry, with the experiments that it has made so far. Any of these may
be put back into it, and counts may change at any time. -/
inductive Reached : List Experiment → Registry → Prop
  | empty : Reached [] Registry.empty
  | register {made : List Experiment} {r : Registry} (h : Reached made r) (rule : Rule) :
      Reached (made ++ [(r.register rule).1]) (r.register rule).2
  | add {made : List Experiment} {r : Registry} {e : Experiment} (h : Reached made r)
      (he : e ∈ made) : Reached made (r.add e)
  | unregister {made : List Experiment} {r : Registry} (h : Reached made r) (key : String) :
      Reached made (r.unregister key).2
  | unregisterTarget {made : List Experiment} {r : Registry} (h : Reached made r)
      (target : String) : Reached made (r.unregisterTarget target).2
  | clear {made : List Experiment} {r : Registry} (h : Reached made r) : Reached made r.clear
  | setCount {made : List Experiment} {r : Registry} (h : Reached made r) (e : Experiment)
      (n : UInt64) : Reached made (r.setCount e n)

theorem Reached.registerAll {made : List Experiment} {r : Registry} (h : Reached made r)
    (rules : List Rule) :
    Reached (made ++ Experiment.numberedFrom r.next rules) (r.registerAll rules) := by
  induction rules generalizing made r with
  | nil =>
    rw [Experiment.numberedFrom, List.append_nil]
    exact h
  | cons rule rules ih =>
    have hrest := ih (h.register rule)
    rw [List.append_assoc] at hrest
    exact hrest

structure Numbered (made : List Experiment) (r : Registry) : Prop where
  serials : made.map (·.serial) = List.range r.next
  registered : ∀ target, ∀ e ∈ r.forTarget target, e ∈ made ∧ e.rule.target = target

theorem Numbered.shrink {made : List Experiment} {r r' : Registry} (h : Numbered made r)
    (hn : r'.next = r.next) (hs : ∀ target, r'.forTarget target ⊆ r.forTarget target) :
    Numbered made r' where
  serials := hn ▸ h.serials
  registered target e he := h.registered target e (hs target he)

theorem Numbered.add {made : List Experiment} {r : Registry} {e : Experiment}
    (h : Numbered made r) (he : e ∈ made) : Numbered made (r.add e) where
  serials := h.serials
  registered target f hf := by
    rw [forTarget_add] at hf
    split at hf
    · next ht =>
      rcases List.mem_append.1 hf with hf | hf
      · exact h.registered target f hf
      · obtain rfl := List.mem_singleton.1 hf
        exact ⟨he, ht.symm⟩
    · exact h.registered target f hf

theorem Numbered.register {made : List Experiment} {r : Registry} (h : Numbered made r)
    (rule : Rule) : Numbered (made ++ [(r.register rule).1]) (r.register rule).2 := by
  refine Numbered.add (r := { r with counts := r.counts.set r.next 0, next := r.next + 1 })
    ⟨?_, fun target e he => ?_⟩ List.mem_concat_self
  · rw [List.map_append, h.serials, List.range_succ]
    rfl
  · obtain ⟨hmade, ht⟩ := h.registered target e he
    exact ⟨List.mem_append_left _ hmade, ht⟩

theorem Reached.numbered {made : List Experiment} {r : Registry} (h : Reached made r) :
    Numbered made r := by
  induction h with
  | empty => exact ⟨rfl, fun _ _ he => nomatch he⟩
  | register _ rule ih => exact ih.register rule
  | add _ he ih => exact ih.add he
  | unregister _ key ih =>
    refine ih.shrink rfl fun target => ?_
    simp
  | unregisterTarget _ key ih =>
    refine ih.shrink rfl fun target => ?_
    rw [forTarget_unregisterTarget]
    split
    · exact List.nil_subset _
    · exact List.Subset.refl _
  | clear _ ih => exact ih.shrink rfl fun _ => List.nil_subset _
  | setCount _ e n ih => exact ih.shrink rfl fun _ => List.Subset.refl _

theorem Reached.serial_lt {made : List Experiment} {r : Registry} (h : Reached made r)
    {target : String} {e : Experiment} (he : e ∈ r.forTarget target) : e.serial < r.next := by
  have hmade := List.mem_map_of_mem (f := (·.serial)) (h.numbered.registered target e he).1
  rw [h.numbered.serials] at hmade
  exact List.mem_range.1 hmade

theorem Reached.eq_of_serial {made : List Experiment} {r : Registry} (h : Reached made r)
    {e f : Experiment} (he : e ∈ made) (hf : f ∈ made) (hs : e.serial = f.serial) : e = f := by
  have hnodup : (made.map (·.serial)).Nodup := by
    rw [h.numbered.serials]
    exact List.nodup_range
  exact List.inj_on_of_nodup_map hnodup he hf hs

theorem Reached.target_eq {made : List Experiment} {r : Registry} (h : Reached made r)
    {target target' : String} {e f : Experiment} (he : e ∈ r.forTarget target)
    (hf : f ∈ r.forTarget target') (hs : e.serial = f.serial) : target = target' := by
  obtain ⟨hemade, rfl⟩ := h.numbered.registered target e he
  obtain ⟨hfmade, rfl⟩ := h.numbered.registered target' f hf
  rw [h.eq_of_serial hemade hfmade hs]

@[simp] theorem forTarget_registerAll (r : Registry) (rules : List Rule) (target : String) :
    (r.registerAll rules).forTarget target = r.forTarget target ++
      (Experiment.numberedFrom r.next rules).filter fun e => e.rule.target = target := by
  induction rules generalizing r with
  | nil => exact (List.append_nil _).symm
  | cons rule rules ih =>
    rw [registerAll, ih, Experiment.numberedFrom]
    by_cases ht : target = rule.target
    · simp [ht]
      rfl
    · simp [ht, Ne.symm ht]
      rfl

@[simp] theorem count_register (r : Registry) (rule : Rule) (e : Experiment) :
    (r.register rule).2.count e = if r.next = e.serial then 0 else r.count e :=
  Counts.get_set r.counts r.next e.serial 0

theorem count_registerAll_of_lt {r : Registry} {e : Experiment} (h : e.serial < r.next)
    (rules : List Rule) : (r.registerAll rules).count e = r.count e := by
  induction rules generalizing r with
  | nil => rfl
  | cons rule rules ih =>
    have hlt : e.serial < (r.register rule).2.next := Nat.lt_succ_of_lt h
    simp [registerAll, ih hlt, Nat.ne_of_gt h]

theorem count_registerAll_of_mem {r : Registry} {e : Experiment} {rules : List Rule}
    (h : e ∈ Experiment.numberedFrom r.next rules) : (r.registerAll rules).count e = 0 := by
  induction rules generalizing r with
  | nil => cases h
  | cons rule rules ih =>
    rw [registerAll]
    rcases List.mem_cons.1 h with rfl | h
    · rw [count_registerAll_of_lt (Nat.lt_succ_self r.next), count_register, if_pos rfl]
    · exact ih h

end Registry
end FaultInjection
