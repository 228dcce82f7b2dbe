import FaultInjection.Proofs.Cache.Run

namespace FaultInjection

namespace Cache

variable {α ε : Type} {c d : Cache α} {compile : String → Except ε α}

def Faithful (c : Cache α) (compile : String → Except ε α) : Prop :=
  ∀ s ∈ c.slots, ∀ v, s.value = some v → compile s.key = .ok v

theorem faithful_empty (ttl capacity origin : Nat) :
    (empty ttl capacity origin).Faithful compile := by
  intro s hs
  simp [empty] at hs

theorem Faithful.subset (h : c.Faithful compile) (hs : d.slots ⊆ c.slots) :
    d.Faithful compile :=
  fun s hd => h s (hs hd)

theorem faithful_remove (h : c.Faithful compile) (key : String) :
    (c.remove key).Faithful compile :=
  h.subset List.filter_sublist.subset

theorem faithful_dropExpired (h : c.Faithful compile) (stamp : Nat) :
    (c.dropExpired stamp).Faithful compile :=
  h.subset List.filter_sublist.subset

theorem faithful_evict (h : c.Faithful compile) (stamp : Nat) :
    (c.evict stamp).Faithful compile := by
  have hd := faithful_dropExpired h stamp
  simp only [evict]
  split
  · exact hd
  · split
    · exact faithful_remove hd _
    · exact hd

theorem faithful_touch (h : c.Faithful compile) (stamp : Nat) (key : String) :
    (c.touch stamp key).Faithful compile := by
  intro s hs v hv
  obtain ⟨t, ht, rfl⟩ := List.mem_map.1 hs
  split at hv
  · next hk =>
    rw [if_pos hk]
    exact h t ht v hv
  · next hk =>
    rw [if_neg hk]
    exact h t ht v hv

theorem faithful_claim (h : c.Faithful compile) (stamp : Nat) (key : String) :
    (c.claim stamp key).Faithful compile := by
  have hr := faithful_remove h key
  intro s hs v hv
  simp only [claim] at hs
  rcases List.mem_append.1 hs with hs | hs
  · split at hs
    · exact faithful_evict hr stamp s hs v hv
    · exact hr s hs v hv
  · -- The slot that was claimed holds nothing yet.
    rw [List.mem_singleton.1 hs] at hv
    cases hv

theorem faithful_fill (h : c.Faithful compile) {key : String} {v : α} (hv : compile key = .ok v)
    (stamp : Nat) : (c.fill stamp key v).Faithful compile := by
  intro s hs w hw
  obtain ⟨t, ht, rfl⟩ := List.mem_map.1 hs
  split at hw
  · next hk =>
    rw [if_pos hk]
    change compile t.key = .ok w
    rw [eq_of_beq hk, hv, Option.some.inj hw]
  · next hk =>
    rw [if_neg hk]
    exact h t ht w hw

theorem compile_of_peek? (h : c.Faithful compile) {now : Nat} {key : String} {v : α}
    (hp : c.peek? now key = some v) : compile key = .ok v := by
  simp only [peek?, find?] at hp
  split at hp
  · cases hp
  · next s hs =>
    have hk : s.key = key := by simpa using List.find?_some hs
    split at hp
    · cases hp
    · exact hk ▸ h s (List.mem_of_find?_eq_some hs) v hp

theorem getOrCompileUntil_fst (h : c.Faithful compile) (now done : Nat) (key : String) :
    (c.getOrCompileUntil now done key compile).1 = compile key := by
  simp only [getOrCompileUntil]
  split
  · next v hv => exact (compile_of_peek? h hv).symm
  · split
    · next v hv => exact hv.symm
    · next e he => exact he.symm

theorem getOrCompile_fst (h : c.Faithful compile) (now : Nat) (key : String) :
    (c.getOrCompile now key compile).1 = compile key :=
  getOrCompileUntil_fst h now now key

theorem faithful_getOrCompileUntil (h : c.Faithful compile) (now done : Nat) (key : String) :
    (c.getOrCompileUntil now done key compile).2.Faithful compile := by
  let claimed := c.claim (c.stamp now) key
  have hc : Faithful { claimed with compiles := claimed.compiles + 1 } compile :=
    faithful_claim h (c.stamp now) key
  simp only [getOrCompileUntil]
  split
  · exact faithful_touch h _ _
  · split
    · next v hv => exact faithful_fill hc hv _
    · exact faithful_remove hc _

theorem faithful_getOrCompile (h : c.Faithful compile) (now : Nat) (key : String) :
    (c.getOrCompile now key compile).2.Faithful compile :=
  faithful_getOrCompileUntil h now now key

theorem faithful_purge (h : c.Faithful compile) (now : Nat) : (c.purge now).2.Faithful compile :=
  faithful_dropExpired h _

theorem faithful_clear : c.clear.Faithful compile := by
  intro s hs
  simp [clear] at hs

end Cache

namespace TimedCache

variable {ε α : Type} {t : TimedCache α} {compile : String → Except ε α}

theorem faithful_perform (h : t.cache.Faithful compile) {op : CacheUse ε α}
    (hop : op.CompilesBy compile) : (t.perform op).2.cache.Faithful compile := by
  cases op with
  | get key =>
    simp only [perform, Cache.get?]
    split
    · exact Cache.faithful_touch h _ _
    · exact h
  | fetch key f span =>
    obtain rfl : f = compile := hop
    exact Cache.faithful_getOrCompileUntil h _ _ key
  | purge => exact Cache.faithful_purge h _
  | clear => exact Cache.faithful_clear
  | contains | size | advance => exact h

end TimedCache
end FaultInjection
