import FaultInjection.Proofs.Cache.Run

namespace FaultInjection

namespace Cache

variable {α ε : Type} {c d : Cache α} {items others : List (Item α)} {now later : Nat}

def seen? (c : Cache α) (now : Nat) (key : String) : Option (Slot α) :=
  (c.find? key).filter (c.live (c.stamp now))

theorem live_slot (c : Cache α) (stamp : Nat) (i : Item α) :
    c.live stamp i.slot = i.fresh c.ttl stamp := by
  rw [← not_expired_slot]
  rfl

theorem Holds.seen? (h : c.Holds items) (now : Nat) (key : String) :
    c.seen? now key =
      (Item.find? (items.filter (Item.fresh c.ttl (c.stamp now))) key).map Item.slot := by
  rw [Item.find?_filter h.keys, Cache.seen?, h.find?]
  cases Item.find? items key with
  | none => rfl
  | some i =>
    have hl := live_slot c (c.stamp now) i
    cases hi : i.fresh c.ttl (c.stamp now) <;> simp [Option.filter, hl, hi]

theorem Holds.seen?_later (h : c.Holds items) (hl : now ≤ later) (key : String) :
    c.seen? later key =
      (Item.find? ((items.filter (Item.fresh c.ttl (c.stamp now))).filter
        (Item.fresh c.ttl (c.stamp later))) key).map Item.slot := by
  rw [h.seen?, Item.filter_fresh_later (c.stamp_mono hl)]

theorem Holds.fresh_without (h : c.Holds items) {key : String} (hp : c.peek? now key = none) :
    (Item.without items key).filter (Item.fresh c.ttl (c.stamp now)) =
      items.filter (Item.fresh c.ttl (c.stamp now)) := by
  rw [h.peek?, Option.map_eq_none_iff, Item.find?_eq_none_iff] at hp
  rw [← Item.without_filter, Item.without_eq_self hp]

def failed (c : Cache α) (now : Nat) (key : String) : Cache α :=
  { c with
    slots := (c.makeRoom (c.stamp now) key).slots
    compiles := c.compiles + 1 }

theorem failed_of_error {key : String} {compile : String → Except ε α} {done : Nat} {err : ε}
    (h : (c.getOrCompileUntil now done key compile).1 = .error err) :
    c.peek? now key = none ∧
      (c.getOrCompileUntil now done key compile).2 = c.failed now key := by
  cases hp : c.peek? now key with
  | some v =>
    rw [getOrCompileUntil_hit hp] at h
    cases h
  | none =>
    refine ⟨rfl, ?_⟩
    cases hv : compile key with
    | ok v =>
      rw [getOrCompileUntil_ok hp hv] at h
      cases h
    | error e =>
      rw [getOrCompileUntil_error hp hv]
      rfl

theorem Holds.seen?_failed_of_lt (h : c.Holds items) {key : String} (hp : c.peek? now key = none)
    (hroom : c.size now < c.capacity) (hl : now ≤ later) (k : String) :
    (c.failed now key).seen? later k = c.seen? later k := by
  rw [h.size, ← h.fresh_without hp] at hroom
  obtain ⟨kept, hk, -, hfresh⟩ := h.makeRoom_of_lt hroom
  have hf : (c.failed now key).Holds kept := ⟨hk.slots, hk.keys⟩
  rw [h.fresh_without hp] at hfresh
  rw [hf.seen?_later hl, h.seen?_later hl]
  change (Item.find? ((kept.filter (Item.fresh c.ttl (c.stamp now))).filter _) k).map _ = _
  rw [hfresh]
  rfl

theorem Holds.seen?_failed_of_full (h : c.Holds items) {key : String}
    (hp : c.peek? now key = none) (hfull : c.capacity ≤ c.size now) :
    ∃ s, c.seen? now s.key = some s ∧
      (∀ k t, c.seen? now k = some t → s.lastAccess ≤ t.lastAccess) ∧
      ∀ later ≥ now, ∀ k,
        (c.failed now key).seen? later k = if k = s.key then none else c.seen? later k := by
  rw [h.size, ← h.fresh_without hp] at hfull
  obtain ⟨i, hi, hle, hk⟩ := h.makeRoom_full hfull
  rw [h.fresh_without hp] at hi hle hk
  have hkeys := h.keys.sublist
    (List.filter_sublist (p := Item.fresh c.ttl (c.stamp now)).map Item.key)
  have hf : (c.failed now key).Holds _ := ⟨hk.slots, hk.keys⟩
  refine ⟨i.slot, ?_, ?_, ?_⟩
  · rw [h.seen?, Item.slot_key, (Item.find?_eq_some_iff hkeys).2 ⟨hi, rfl⟩, Option.map_some]
  · intro k t ht
    rw [h.seen?] at ht
    obtain ⟨j, hj, rfl⟩ := Option.map_eq_some_iff.1 ht
    exact hle j (Item.mem_of_find? hj)
  · intro later hl k
    have hlater := hkeys.sublist
      (List.filter_sublist (p := Item.fresh c.ttl (c.stamp later)).map Item.key)
    rw [hf.seen?, h.seen?_later hl]
    change (Item.find? ((Item.without _ i.key).filter (Item.fresh c.ttl (c.stamp later))) k).map _ =
      if k = i.key then none else _
    rw [← Item.without_filter, Item.find?_without hlater]
    split
    · rfl
    · rfl

end Cache

namespace TimedCache

variable {ε α : Type}

/-- A compilation that fails changes nothing that can be seen, from then on, of a cache with room for
one more item. Of a cache that is full of live items it costs the one that was used longest ago. -/
theorem seen_after_failure (ttl capacity origin : Nat) (ops : List (CacheUse ε α)) {key : String}
    {compile : String → Except ε α} {done : Nat} {err : ε} :
    let t := ((empty ttl capacity origin : TimedCache α).performAll ops).2
    let r := t.cache.getOrCompileUntil t.now done key compile
    r.1 = .error err →
      (t.cache.size t.now < max 1 capacity →
        ∀ later ≥ t.now, ∀ k, r.2.seen? later k = t.cache.seen? later k) ∧
      (max 1 capacity ≤ t.cache.size t.now →
        ∃ s, t.cache.seen? t.now s.key = some s ∧
          (∀ k u, t.cache.seen? t.now k = some u → s.lastAccess ≤ u.lastAccess) ∧
          ∀ later ≥ t.now, ∀ k,
            r.2.seen? later k = if k = s.key then none else t.cache.seen? later k) := by
  intro t r hr
  obtain ⟨items, hh⟩ : ∃ items, t.cache.Holds items := holds_performAll ⟨[], .nil, .nil⟩ ops
  have hcapacity : t.cache.capacity = max 1 capacity :=
    ((empty ttl capacity origin : TimedCache α).performAll_settings ops).2.1
  obtain ⟨hp, hfailed⟩ := Cache.failed_of_error hr
  change r.2 = _ at hfailed
  rw [hfailed, ← hcapacity]
  constructor
  · intro hroom later hl k
    exact hh.seen?_failed_of_lt hp hroom hl k
  · intro hfull
    exact hh.seen?_failed_of_full hp hfull

def crowded : List (CacheUse String Nat) :=
  [.fetch "a" (fun _ => .ok 1) 0, .advance 1, .fetch "b" (fun _ => .ok 2) 0, .advance 1, .get "a"]

theorem seen_after_failure_crowded :
    let t := ((empty 10 2 0 : TimedCache Nat).performAll crowded).2
    let r := t.cache.getOrCompileUntil t.now 5 "c" (fun _ => (.error "no" : Except String Nat))
    r.1 = .error "no" ∧ t.cache.size t.now = 2 ∧
      ∀ later ≥ t.now, r.2.seen? later "a" = t.cache.seen? later "a" := by
  intro t r
  have hr : r.1 = .error "no" := rfl
  have hsize : t.cache.size t.now = 2 := by decide
  obtain ⟨s, hs, hle, hseen⟩ := (seen_after_failure 10 2 0 crowded hr).2 (by decide)
  refine ⟨hr, hsize, ?_⟩
  intro later hl
  have hb : s.lastAccess ≤ 1 := hle "b" ⟨"b", some 2, 1⟩ rfl
  rw [hseen later hl "a", if_neg]
  rintro ha
  rw [← ha] at hs
  obtain rfl := Option.some.inj hs
  exact absurd hb (by decide)

theorem failure_evicts :
    let t := ((empty 10 1 0 : TimedCache Nat).performAll
      [.fetch "a" (fun _ => (.ok 1 : Except String Nat)) 0]).2
    let r := t.cache.getOrCompileUntil t.now t.now "b" (fun _ => (.error "no" : Except String Nat))
    r.1 = .error "no" ∧ t.cache.contains t.now "a" = true ∧ r.2.contains t.now "a" = false :=
  ⟨rfl, by decide, by decide⟩

end TimedCache
end FaultInjection
