import FaultInjection.Proofs.Cache.Run

namespace FaultInjection

structure Compilation (ε α : Type) where
  key : String
  result : Except ε α

namespace Compilation

variable {ε α : Type} {log : List (Compilation ε α)} {key : String}

def lastResult? (log : List (Compilation ε α)) (key : String) : Option (Except ε α) :=
  (log.find? fun run => run.key == key).map Compilation.result

@[simp] theorem lastResult?_cons_self (log : List (Compilation ε α)) (key : String)
    (result : Except ε α) :
    lastResult? (⟨key, result⟩ :: log) key = some result := by
  simp [lastResult?]

theorem lastResult?_cons_of_ne {other : String} (h : key ≠ other) (result : Except ε α) :
    lastResult? (⟨other, result⟩ :: log) key = lastResult? log key := by
  simp [lastResult?, h.symm]

end Compilation

namespace Cache

variable {α : Type} {c : Cache α}

theorem length_remove_lt {s : Slot α} (hs : s ∈ c.slots) :
    (c.remove s.key).slots.length < c.slots.length :=
  List.length_filter_lt_length_iff_exists.2 ⟨s, hs, by simp⟩

theorem length_evict_lt (hv : ∀ s ∈ c.slots, s.value ≠ none) (hl : c.slots.length ≤ c.capacity)
    (stamp : Nat) : (c.evict stamp).slots.length < c.capacity := by
  rcases Nat.lt_or_ge (c.dropExpired stamp).slots.length c.capacity with hroom | hfull
  · rw [evict_of_lt hroom]
    exact hroom
  · obtain ⟨s, hs, -, -, he⟩ := evict_of_full hv hfull
    have hkept : (c.dropExpired stamp).slots.length ≤ c.slots.length :=
      List.filter_sublist.length_le
    have hless := length_remove_lt hs
    rw [he]
    omega

theorem length_makeRoom_lt (hv : ∀ s ∈ c.slots, s.value ≠ none)
    (hl : c.slots.length ≤ c.capacity) (stamp : Nat) (key : String) :
    (c.makeRoom stamp key).slots.length < c.capacity := by
  have hsub : (c.remove key).slots.Sublist c.slots := List.filter_sublist
  by_cases hfull : c.capacity ≤ (c.remove key).slots.length
  · have hr : c.makeRoom stamp key = (c.remove key).evict stamp := if_pos hfull
    rw [hr]
    exact length_evict_lt (fun s hs => hv s (hsub.subset hs)) (Nat.le_trans hsub.length_le hl) stamp
  · have hr : c.makeRoom stamp key = c.remove key := if_neg hfull
    rw [hr]
    exact Nat.lt_of_not_le hfull

end Cache

namespace TimedCache

variable {ε α : Type} {t : TimedCache α} {log : List (Compilation ε α)}

def compiled (t : TimedCache α) (log : List (Compilation ε α)) (op : CacheUse ε α) :
    List (Compilation ε α) :=
  match op, (t.perform op).1 with
  | .fetch key compile _, .fetched _ true => ⟨key, compile key⟩ :: log
  | _, _ => log

def compiledAll (t : TimedCache α) (log : List (Compilation ε α)) :
    List (CacheUse ε α) → List (Compilation ε α)
  | [] => log
  | op :: ops => compiledAll (t.perform op).2 (t.compiled log op) ops

structure Tidy (t : TimedCache α) (log : List (Compilation ε α)) : Prop where
  length : t.cache.slots.length ≤ t.cache.capacity
  value : ∀ s ∈ t.cache.slots, ∃ v, s.value = some v ∧
    Compilation.lastResult? log s.key = some (.ok v)
  used : ∀ s ∈ t.cache.slots, s.lastAccess ≤ t.cache.stamp t.now

theorem Tidy.value_ne_none (h : t.Tidy log) : ∀ s ∈ t.cache.slots, s.value ≠ none := by
  intro s hs
  obtain ⟨v, hv, -⟩ := h.value s hs
  rw [hv]
  nofun

theorem tidy_empty (ttl capacity origin : Nat) :
    (empty ttl capacity origin : TimedCache α).Tidy log where
  length := Nat.zero_le _
  value := nofun
  used := nofun

theorem Tidy.sublist (h : t.Tidy log) {slots : List (Slot α)} (hs : slots.Sublist t.cache.slots)
    {now : Nat} (hn : t.now ≤ now) (compiles : Nat) :
    Tidy ⟨{ t.cache with slots, compiles }, now⟩ log where
  length := Nat.le_trans hs.length_le h.length
  value := fun s hm => h.value s (hs.subset hm)
  used := fun s hm => Nat.le_trans (h.used s (hs.subset hm)) (t.cache.stamp_mono hn)

theorem Tidy.touch (h : t.Tidy log) (key : String) :
    Tidy ⟨t.cache.touch (t.cache.stamp t.now) key, t.now⟩ log where
  length := by
    simpa only [Cache.touch, List.length_map] using h.length
  value := by
    intro s hs
    obtain ⟨r, hr, rfl⟩ := List.mem_map.1 hs
    split
    · exact h.value r hr
    · exact h.value r hr
  used := by
    intro s hs
    obtain ⟨r, hr, rfl⟩ := List.mem_map.1 hs
    split
    · exact Nat.max_le.2 ⟨h.used r hr, Nat.le_refl _⟩
    · exact h.used r hr

theorem Tidy.makeRoom (h : t.Tidy log) (key : String) (result : Except ε α) (span : Nat)
    (compiles : Nat) :
    Tidy ⟨{ t.cache with
      slots := (t.cache.makeRoom (t.cache.stamp t.now) key).slots, compiles }, t.now + span⟩
      (⟨key, result⟩ :: log) := by
  have hm := t.cache.makeRoom_slots_sublist (t.cache.stamp t.now) key
  have hk := h.sublist (hm.trans List.filter_sublist) (Nat.le_add_right t.now span) compiles
  refine ⟨hk.length, ?_, hk.used⟩
  intro s hs
  rw [Compilation.lastResult?_cons_of_ne (Cache.key_ne_of_mem_makeRoom hs)]
  exact hk.value s hs

theorem Tidy.fetch (h : t.Tidy log) (key : String) (compile : String → Except ε α) (span : Nat) :
    (t.perform (.fetch key compile span)).2.Tidy (t.compiled log (.fetch key compile span)) := by
  unfold compiled
  cases hp : t.cache.peek? t.now key with
  | some v =>
    rw [fetch_hit hp]
    exact h.touch key
  | none =>
    cases hv : compile key with
    | error err =>
      rw [fetch_error hp hv]
      simp only [hv]
      exact h.makeRoom key (.error err) span _
    | ok v =>
      rw [fetch_ok hp hv]
      simp only [hv]
      have hr := h.makeRoom key (.ok v) span (t.cache.compiles + 1)
      have hroom := Cache.length_makeRoom_lt h.value_ne_none h.length (t.cache.stamp t.now) key
      refine ⟨?_, ?_, ?_⟩
      · change (_ ++ [_]).length ≤ _
        rw [List.length_append]
        exact hroom
      · intro s hs
        rcases List.mem_append.1 hs with hs | hs
        · exact hr.value s hs
        · obtain rfl := List.mem_singleton.1 hs
          exact ⟨v, rfl, by simp⟩
      · intro s hs
        rcases List.mem_append.1 hs with hs | hs
        · exact hr.used s hs
        · obtain rfl := List.mem_singleton.1 hs
          exact Nat.max_le.2 ⟨t.cache.stamp_mono (Nat.le_add_right _ _), Nat.le_refl _⟩

theorem Tidy.perform (h : t.Tidy log) (op : CacheUse ε α) :
    (t.perform op).2.Tidy (t.compiled log op) := by
  cases op with
  | get key =>
    unfold compiled
    simp only [TimedCache.perform, Cache.get?]
    split
    · exact h.touch key
    · exact h
  | fetch key compile span => exact h.fetch key compile span
  | advance span => exact h.sublist (.refl _) (Nat.le_add_right _ _) _
  | purge => exact h.sublist List.filter_sublist (Nat.le_refl _) _
  | clear => exact h.sublist (List.nil_sublist _) (Nat.le_refl _) _
  | contains | size => exact h

theorem Tidy.performAll (h : t.Tidy log) (ops : List (CacheUse ε α)) :
    (t.performAll ops).2.Tidy (t.compiledAll log ops) := by
  induction ops generalizing t log with
  | nil => exact h
  | cons op ops ih => exact ih (h.perform op)

/-- After any run a cache holds no more slots than it has room for, expired ones among them. Each is
the only one of its text and holds what this was last compiled to; none was used later than now. So
what a purge drops is counted exactly, and where room has to be made a slot to give up is found. -/
theorem slots_after_run (ttl capacity origin : Nat) (ops : List (CacheUse ε α)) :
    let start : TimedCache α := empty ttl capacity origin
    let t := (start.performAll ops).2
    let c := t.cache
    let stamp := c.stamp t.now
    c.slots.length ≤ max 1 capacity ∧
    (c.slots.map Slot.key).Nodup ∧
    (∀ s ∈ c.slots, ∃ v, s.value = some v ∧
      Compilation.lastResult? (start.compiledAll [] ops) s.key = some (.ok v)) ∧
    (∀ s ∈ c.slots, s.lastAccess ≤ stamp) ∧
    (c.purge t.now).1 + (c.purge t.now).2.slots.length = c.slots.length ∧
    ∀ key, max 1 capacity ≤ ((c.remove key).dropExpired stamp).slots.length →
      ∃ s ∈ ((c.remove key).dropExpired stamp).slots,
        Cache.oldest? ((c.remove key).dropExpired stamp).slots = some s ∧
        (∀ r ∈ ((c.remove key).dropExpired stamp).slots, s.lastAccess ≤ r.lastAccess) ∧
        (c.remove key).evict stamp = ((c.remove key).dropExpired stamp).remove s.key ∧
        ((c.remove key).evict stamp).slots.length < max 1 capacity := by
  intro start t c stamp
  have h : t.Tidy (start.compiledAll [] ops) := (tidy_empty ttl capacity origin).performAll ops
  have hcapacity : c.capacity = max 1 capacity := (start.performAll_settings ops).2.1
  obtain ⟨items, hh⟩ : ∃ items, c.Holds items := holds_performAll ⟨[], .nil, .nil⟩ ops
  have hdropped : (c.dropExpired stamp).slots.length ≤ c.slots.length :=
    List.filter_sublist.length_le
  rw [← hcapacity]
  refine ⟨h.length, hh.keys_slots, h.value, h.used, Nat.sub_add_cancel hdropped, ?_⟩
  intro key hfull
  have hsub : (c.remove key).slots.Sublist c.slots := List.filter_sublist
  have hv : ∀ s ∈ (c.remove key).slots, s.value ≠ none := fun s hs =>
    h.value_ne_none s (hsub.subset hs)
  obtain ⟨s, hs, ho, hle, he⟩ := Cache.evict_of_full hv hfull
  exact ⟨s, hs, ho, hle, he,
    Cache.length_evict_lt hv (Nat.le_trans hsub.length_le h.length) stamp⟩

end TimedCache
end FaultInjection
