import FaultInjection.Proofs.Cache.Run

namespace FaultInjection

structure EagerCache (α : Type) where
  ttl : Nat
  room : Nat
  now : Nat
  items : List (Item α)

namespace EagerCache

variable {ε α : Type}

def empty (ttl capacity : Nat) : EagerCache α :=
  ⟨ttl, max 1 capacity, 0, []⟩

def find? (e : EagerCache α) (key : String) : Option (Item α) :=
  Item.find? e.items key

def use (e : EagerCache α) (key : String) (v : α) : EagerCache α :=
  { e with items := ⟨key, v, e.now⟩ :: Item.without e.items key }

def makeRoom (e : EagerCache α) : EagerCache α :=
  if e.room ≤ e.items.length then { e with items := e.items.dropLast } else e

def advance (e : EagerCache α) (span : Nat) : EagerCache α :=
  { e with
    now := e.now + span
    items := e.items.filter (Item.fresh e.ttl (e.now + span)) }

theorem makeRoom_now (e : EagerCache α) : e.makeRoom.now = e.now := by
  unfold makeRoom
  split <;> rfl

def perform (e : EagerCache α) : CacheUse ε α → CacheAnswer ε α × EagerCache α
  | .get key =>
    match e.find? key with
    | some i => (.found (some i.value), e.use key i.value)
    | none => (.found none, e)
  | .fetch key compile span =>
    match e.find? key with
    | some i => (.fetched (.ok i.value) false, e.use key i.value)
    | none =>
      let e := e.makeRoom.advance span
      match compile key with
      | .ok v => (.fetched (.ok v) true, e.use key v)
      | .error err => (.fetched (.error err) true, e)
  | .contains key => (.holds (e.find? key).isSome, e)
  | .size => (.counted e.items.length, e)
  | .advance span => (.done, e.advance span)
  | .purge => (.done, e)
  | .clear => (.done, { e with items := [] })

def performAll (e : EagerCache α) : List (CacheUse ε α) → List (CacheAnswer ε α) × EagerCache α
  | [] => ([], e)
  | op :: ops =>
    let (answer, e) := e.perform op
    let (answers, e) := performAll e ops
    (answer :: answers, e)

def Untied (e : EagerCache α) : Prop :=
  ∀ i ∈ e.items, ∀ j ∈ e.items,
    (∀ k ∈ e.items, i.used ≤ k.used) → (∀ k ∈ e.items, j.used ≤ k.used) → i.key = j.key

def Decided (e : EagerCache α) : CacheUse ε α → Prop
  | .fetch key _ _ => e.find? key = none → e.room ≤ e.items.length → e.Untied
  | _ => True

def AllDecided (e : EagerCache α) : List (CacheUse ε α) → Prop
  | [] => True
  | op :: ops => e.Decided op ∧ AllDecided (e.perform op).2 ops

instance (e : EagerCache α) : Decidable e.Untied :=
  inferInstanceAs (Decidable (∀ i ∈ e.items, ∀ j ∈ e.items, _ → _ → i.key = j.key))

instance (e : EagerCache α) : (op : CacheUse ε α) → Decidable (e.Decided op)
  | .fetch key _ _ =>
    inferInstanceAs (Decidable (e.find? key = none → e.room ≤ e.items.length → e.Untied))
  | .get _ | .contains _ | .size | .advance _ | .purge | .clear => inferInstanceAs (Decidable True)

instance decidableAllDecided (e : EagerCache α) :
    (ops : List (CacheUse ε α)) → Decidable (e.AllDecided ops)
  | [] => inferInstanceAs (Decidable True)
  | op :: ops =>
    have := decidableAllDecided (e.perform op).2 ops
    inferInstanceAs (Decidable (e.Decided op ∧ AllDecided (e.perform op).2 ops))

theorem now_perform_fetch {e : EagerCache α} {key : String} (hn : e.find? key = none)
    (compile : String → Except ε α) (span : Nat) :
    (e.perform (.fetch key compile span)).2.now = e.now + span := by
  rw [← e.makeRoom_now]
  simp only [perform, hn]
  split <;> rfl

theorem now_perform_get (e : EagerCache α) (key : String) :
    (e.perform (.get key : CacheUse ε α)).2.now = e.now := by
  simp only [perform]
  split <;> rfl

theorem now_le_perform (e : EagerCache α) (op : CacheUse ε α) : e.now ≤ (e.perform op).2.now := by
  cases op with
  | get key => exact Nat.le_of_eq (e.now_perform_get key).symm
  | fetch key compile span =>
    cases hi : e.find? key with
    | none =>
      rw [now_perform_fetch hi]
      exact Nat.le_add_right _ _
    | some i =>
      simp only [perform, hi]
      exact Nat.le_refl _
  | advance span => exact Nat.le_add_right _ _
  | contains | size | purge | clear => exact Nat.le_refl _

theorem now_le_performAll (e : EagerCache α) (ops : List (CacheUse ε α)) :
    e.now ≤ (e.performAll ops).2.now := by
  induction ops generalizing e with
  | nil => exact Nat.le_refl _
  | cons op ops ih => exact Nat.le_trans (e.now_le_perform op) (ih _)

theorem performAll_insert_purge (e : EagerCache α) (ops : List (CacheUse ε α)) (n : Nat) :
    e.performAll (ops.insertIdx n .purge) =
      ((e.performAll ops).1.insertIdx n .done, (e.performAll ops).2) := by
  induction n generalizing e ops with
  | zero => rfl
  | succ n ih =>
    cases ops with
    | nil => rfl
    | cons op ops =>
      simp only [List.insertIdx_succ_cons, performAll, ih]

theorem AllDecided.insert_purge {e : EagerCache α} {ops : List (CacheUse ε α)}
    (h : e.AllDecided ops) (n : Nat) : e.AllDecided (ops.insertIdx n .purge) := by
  induction n generalizing e ops with
  | zero => exact ⟨trivial, h⟩
  | succ n ih =>
    cases ops with
    | nil => exact h
    | cons op ops => exact ⟨h.1, ih h.2⟩

end EagerCache

namespace Item

variable {α : Type} {items : List (Item α)} {i : Item α} {now : Nat}

theorem without_oldest (hn : (items.map Item.key).Nodup)
    (ho : NewestFirst now (items.map Item.used)) (hi : i ∈ items)
    (hu : ∀ j ∈ items, (∀ k ∈ items, j.used ≤ k.used) → i.key = j.key) :
    without items i.key = items.dropLast := by
  obtain rfl | ⟨init, last, rfl⟩ := items.eq_nil_or_concat
  · cases hi
  · rw [List.concat_eq_append] at *
    -- The last item is one that was used longest ago, so by `hu` it is `i`.
    have hlast : ∀ k ∈ init ++ [last], last.used ≤ k.used := by
      intro k hk
      have hp := ho.pairwise
      rw [List.map_append, List.pairwise_append] at hp
      rcases List.mem_append.1 hk with hk | hk
      · exact hp.2.2 k.used (List.mem_map_of_mem hk) last.used (by simp)
      · exact List.mem_singleton.1 hk ▸ Nat.le_refl _
    have hkey := hu last (by simp) hlast
    have hne : ∀ k ∈ init, k.key ≠ last.key := by
      intro k hk
      rw [List.map_append, List.nodup_append] at hn
      exact hn.2.2 k.key (List.mem_map_of_mem hk) last.key (by simp)
    have hw := without_eq_self hne
    rw [hkey, List.dropLast_concat]
    simpa [without] using hw

end Item

structure TimedCache.Tracks {α : Type} (t : TimedCache α) (e : EagerCache α) : Prop where
  ttl : t.cache.ttl = e.ttl
  room : t.cache.capacity = e.room
  now : t.now = t.cache.origin + e.now
  bounded : e.now < UInt64.size
  holds : ∃ held, t.cache.Holds held ∧ NewestFirst e.now (held.map Item.used) ∧
    held.filter (Item.fresh e.ttl e.now) = e.items

namespace TimedCache

variable {ε α : Type} {t : TimedCache α} {e : EagerCache α} {key : String} {i : Item α}

theorem tracks_empty (ttl capacity origin : Nat) :
    (empty ttl capacity origin : TimedCache α).Tracks (.empty ttl capacity) where
  ttl := rfl
  room := rfl
  now := rfl
  bounded := by
    change 0 < UInt64.size
    decide
  holds := ⟨[], ⟨.nil, .nil⟩, .nil _, rfl⟩

theorem Tracks.stamp (h : t.Tracks e) : t.cache.stamp t.now = e.now := by
  have := h.now
  have := h.bounded
  simp only [Cache.stamp]
  omega

theorem Tracks.fresh (h : t.Tracks e) : ∀ i ∈ e.items, i.fresh e.ttl e.now = true := by
  obtain ⟨held, -, -, hfresh⟩ := h.holds
  intro i hi
  rw [← hfresh] at hi
  exact (List.mem_filter.1 hi).2

theorem Tracks.peek? (h : t.Tracks e) (key : String) :
    t.cache.peek? t.now key = (e.find? key).map Item.value := by
  obtain ⟨held, hh, -, hfresh⟩ := h.holds
  rw [hh.peek?, h.stamp, h.ttl, hfresh]
  rfl

theorem Tracks.hit (h : t.Tracks e) (hi : e.find? key = some i) :
    t.cache.peek? t.now key = some i.value := by
  rw [h.peek?, hi, Option.map_some]

theorem Tracks.miss (h : t.Tracks e) (hn : e.find? key = none) :
    t.cache.peek? t.now key = none := by
  rw [h.peek?, hn, Option.map_none]

theorem Tracks.contains (h : t.Tracks e) (key : String) :
    t.cache.contains t.now key = (e.find? key).isSome := by
  rw [Cache.contains_eq, h.peek?, Option.isSome_map]

theorem Tracks.size (h : t.Tracks e) : t.cache.size t.now = e.items.length := by
  obtain ⟨held, hh, -, hfresh⟩ := h.holds
  rw [hh.size, h.stamp, h.ttl, hfresh]

theorem Tracks.purge (h : t.Tracks e) : Tracks ⟨(t.cache.purge t.now).2, t.now⟩ e where
  ttl := h.ttl
  room := h.room
  now := h.now
  bounded := h.bounded
  holds := by
    obtain ⟨held, hh, hord, hfresh⟩ := h.holds
    have hd : (t.cache.purge t.now).2.Holds _ := hh.dropExpired (t.cache.stamp t.now)
    rw [h.stamp, h.ttl, hfresh] at hd
    have hsub : e.items.Sublist held := hfresh ▸ List.filter_sublist
    exact ⟨e.items, hd, hord.sublist (hsub.map _), List.filter_eq_self.2 h.fresh⟩

theorem Tracks.purge_fst (h : t.Tracks e) :
    (t.cache.purge t.now).1 + e.items.length = t.cache.slots.length := by
  obtain ⟨held, hh, -, hfresh⟩ := h.holds
  have hd := (hh.dropExpired (t.cache.stamp t.now)).length
  rw [h.stamp, h.ttl, hfresh] at hd
  have hle : e.items.length ≤ t.cache.slots.length := by
    rw [hh.length, ← hfresh]
    exact List.filter_sublist.length_le
  simp only [Cache.purge, h.stamp, hd]
  omega

theorem Tracks.clear (h : t.Tracks e) : Tracks ⟨t.cache.clear, t.now⟩ { e with items := [] } where
  ttl := h.ttl
  room := h.room
  now := h.now
  bounded := h.bounded
  holds := ⟨[], Cache.holds_clear _, .nil _, rfl⟩

theorem Tracks.advance (h : t.Tracks e) {span : Nat} (hb : e.now + span < UInt64.size) :
    Tracks ⟨t.cache, t.now + span⟩ (e.advance span) where
  ttl := h.ttl
  room := h.room
  now := by
    have := h.now
    simp only [EagerCache.advance]
    omega
  bounded := hb
  holds := by
    obtain ⟨held, hh, hord, hfresh⟩ := h.holds
    have hle : e.now ≤ e.now + span := Nat.le_add_right _ _
    refine ⟨held, hh, hord.later hle, ?_⟩
    simp only [EagerCache.advance, ← hfresh, Item.filter_fresh_later hle]

theorem Tracks.touch (h : t.Tracks e) (hi : e.find? key = some i) :
    Tracks ⟨t.cache.touch e.now key, t.now⟩ (e.use key i.value) where
  ttl := h.ttl
  room := h.room
  now := h.now
  bounded := h.bounded
  holds := by
    obtain ⟨held, hh, hord, hfresh⟩ := h.holds
    have hm := Item.mem_of_find? hi
    rw [← hfresh, List.mem_filter] at hm
    obtain rfl := Item.key_of_find? hi
    have ht := hh.touch hm.1 e.now
    rw [Nat.max_eq_right (hord.le (List.mem_map_of_mem hm.1))] at ht
    refine ⟨_, ht, (hord.sublist (List.filter_sublist.map _)).cons, ?_⟩
    simp only [EagerCache.use, ← hfresh, Item.without_filter]
    exact List.filter_cons_of_pos (by simp [Item.fresh])

theorem Tracks.insert (h : t.Tracks e) (hk : ∀ s ∈ t.cache.slots, s.key ≠ key) (v : α) :
    Tracks ⟨{ t.cache with slots := t.cache.slots ++ [⟨key, some v, e.now⟩] }, t.now⟩
      (e.use key v) where
  ttl := h.ttl
  room := h.room
  now := h.now
  bounded := h.bounded
  holds := by
    obtain ⟨held, hh, hord, hfresh⟩ := h.holds
    refine ⟨_, hh.append hk v e.now, hord.cons, ?_⟩
    have hw : Item.without held key = held := by
      apply Item.without_eq_self
      intro i hi
      exact hk i.slot (hh.mem_slots.2 ⟨i, hi, rfl⟩)
    simp only [EagerCache.use, ← hfresh, Item.without_filter, hw]
    exact List.filter_cons_of_pos (by simp [Item.fresh])

theorem Tracks.makeRoom (h : t.Tracks e) (hn : e.find? key = none)
    (hu : e.room ≤ e.items.length → e.Untied) (compiles : Nat) :
    Tracks ⟨{ t.cache with slots := (t.cache.makeRoom e.now key).slots, compiles }, t.now⟩
      e.makeRoom := by
  obtain ⟨held, hh, hord, hfresh⟩ := h.holds
  -- What lingers goes first, so a fresh item goes only where the other cache is full as well.
  have hothers : (Item.without held key).filter (Item.fresh t.cache.ttl e.now) = e.items := by
    rw [← Item.without_filter, h.ttl, hfresh]
    exact Item.without_eq_self (Item.find?_eq_none_iff.1 hn)
  have hsub : e.items.Sublist held := hfresh ▸ List.filter_sublist
  by_cases hroom : e.items.length < e.room
  · have he : e.makeRoom = e := if_neg (by omega)
    rw [← hothers, ← h.room] at hroom
    obtain ⟨kept, hk, hs, hf⟩ := hh.makeRoom_of_lt hroom
    rw [hothers, h.ttl] at hf
    rw [he]
    refine ⟨h.ttl, h.room, h.now, h.bounded, kept, ⟨hk.slots, hk.keys⟩, ?_, hf⟩
    exact hord.sublist ((hs.trans List.filter_sublist).map _)
  · have hfull : e.room ≤ e.items.length := by omega
    have he : e.makeRoom = { e with items := e.items.dropLast } := if_pos hfull
    rw [← hothers, ← h.room] at hroom
    obtain ⟨i, hi, hle, hk⟩ := hh.makeRoom_full (Nat.not_lt.1 hroom)
    rw [hothers] at hi hle hk
    have hkeys := hh.keys.sublist (hsub.map Item.key)
    have hlast := Item.without_oldest hkeys (hord.sublist (hsub.map _)) hi
      fun j hj hjle => hu hfull i hi j hj hle hjle
    rw [he]
    refine ⟨h.ttl, h.room, h.now, h.bounded, _, ⟨hk.slots, hk.keys⟩, ?_, ?_⟩
    · exact hord.sublist ((List.filter_sublist.trans hsub).map _)
    · rw [hlast]
      exact List.filter_eq_self.2 fun j hj => h.fresh j (List.dropLast_subset _ hj)

theorem Tracks.get (h : t.Tracks e) (key : String) :
    (t.perform (.get key : CacheUse ε α)).1 = (e.perform (.get key)).1 ∧
      (t.perform (.get key : CacheUse ε α)).2.Tracks (e.perform (.get key : CacheUse ε α)).2 := by
  cases hi : e.find? key with
  | none =>
    simp only [perform, EagerCache.perform, Cache.get?, h.miss hi, hi]
    exact ⟨trivial, h⟩
  | some i =>
    simp only [perform, EagerCache.perform, Cache.get?, h.hit hi, hi, h.stamp]
    exact ⟨trivial, h.touch hi⟩

theorem Tracks.fetch (h : t.Tracks e) {compile : String → Except ε α} {span : Nat}
    (hu : e.Decided (.fetch key compile span))
    (hb : (e.perform (.fetch key compile span)).2.now < UInt64.size) :
    (t.perform (.fetch key compile span)).1 = (e.perform (.fetch key compile span)).1 ∧
      (t.perform (.fetch key compile span)).2.Tracks (e.perform (.fetch key compile span)).2 := by
  cases hi : e.find? key with
  | some i =>
    rw [fetch_hit (h.hit hi), h.stamp]
    simp only [EagerCache.perform, hi]
    exact ⟨trivial, h.touch hi⟩
  | none =>
    have hp := h.miss hi
    have hroom := h.makeRoom hi (hu hi) (t.cache.compiles + 1)
    cases hv : compile key with
    | error err =>
      simp only [EagerCache.perform, hi, hv] at hb ⊢
      rw [fetch_error hp hv, h.stamp]
      exact ⟨rfl, hroom.advance hb⟩
    | ok v =>
      simp only [EagerCache.perform, hi, hv] at hb ⊢
      have hadv := hroom.advance hb
      have hdone : t.cache.stamp (t.now + span) = e.makeRoom.now + span := hadv.stamp
      have hmax : max e.now (e.makeRoom.now + span) = e.makeRoom.now + span := by
        rw [EagerCache.makeRoom_now]
        omega
      rw [fetch_ok hp hv, h.stamp, hdone, hmax]
      exact ⟨rfl, hadv.insert (fun _ => Cache.key_ne_of_mem_makeRoom) v⟩

theorem Tracks.perform (h : t.Tracks e) {op : CacheUse ε α} (hu : e.Decided op)
    (hb : (e.perform op).2.now < UInt64.size) :
    (t.perform op).1 = (e.perform op).1 ∧ (t.perform op).2.Tracks (e.perform op).2 := by
  cases op with
  | get key => exact h.get key
  | fetch key compile span => exact h.fetch hu hb
  | contains key => exact ⟨congrArg _ (h.contains key), h⟩
  | size => exact ⟨congrArg _ h.size, h⟩
  | advance span => exact ⟨rfl, h.advance hb⟩
  | purge => exact ⟨rfl, h.purge⟩
  | clear => exact ⟨rfl, h.clear⟩

theorem Tracks.now_perform (h : t.Tracks e) (op : CacheUse ε α) :
    (t.perform op).2.now = t.cache.origin + (e.perform op).2.now := by
  have hnow := h.now
  cases op with
  | get key =>
    rw [e.now_perform_get]
    exact hnow
  | fetch key compile span =>
    cases hi : e.find? key with
    | some i =>
      rw [fetch_hit (h.hit hi)]
      simp only [EagerCache.perform, hi]
      exact hnow
    | none =>
      have hp := h.miss hi
      rw [EagerCache.now_perform_fetch hi]
      cases hv : compile key with
      | error err =>
        rw [fetch_error hp hv]
        change t.now + span = _
        omega
      | ok v =>
        rw [fetch_ok hp hv]
        change t.now + span = _
        omega
  | advance span =>
    change t.now + span = t.cache.origin + (e.now + span)
    omega
  | contains | size | purge | clear => exact hnow

theorem Tracks.performAll (h : t.Tracks e) {ops : List (CacheUse ε α)} (hu : e.AllDecided ops)
    (hb : (e.performAll ops).2.now < UInt64.size) :
    (t.performAll ops).1 = (e.performAll ops).1 ∧
      (t.performAll ops).2.Tracks (e.performAll ops).2 := by
  induction ops generalizing t e with
  | nil => exact ⟨rfl, h⟩
  | cons op ops ih =>
    have hle := (e.perform op).2.now_le_performAll ops
    obtain ⟨hanswer, hstep⟩ := h.perform hu.1 (Nat.lt_of_le_of_lt hle hb)
    obtain ⟨hanswers, hrun⟩ := ih hstep hu.2 hb
    refine ⟨?_, hrun⟩
    simp only [TimedCache.performAll, EagerCache.performAll, hanswer, hanswers]

theorem Tracks.bounded_performAll (h : t.Tracks e) {ops : List (CacheUse ε α)}
    (hu : e.AllDecided ops)
    (hb : (t.performAll ops).2.now < t.cache.origin + UInt64.size) :
    (e.performAll ops).2.now < UInt64.size := by
  induction ops generalizing t e with
  | nil => exact h.bounded
  | cons op ops ih =>
    have hle := (t.perform op).2.now_le_performAll ops
    have hnow := h.now_perform op
    change ((t.perform op).2.performAll ops).2.now < _ at hb
    obtain ⟨-, hstep⟩ := h.perform hu.1 (by omega)
    have hstepNow := hstep.now
    exact ih hstep hu.2 (by omega)

/-- A cache cannot be told from one that drops an item the moment it expires: a slot that lingers
costs no fresh item its place, and a purge changes no answer. What a purge drops are the slots that
linger. -/
theorem refines_eager (ttl capacity origin : Nat) (ops : List (CacheUse ε α))
    (htime : ((empty ttl capacity origin : TimedCache α).performAll ops).2.now - origin <
      UInt64.size)
    (hdecided : (EagerCache.empty ttl capacity : EagerCache α).AllDecided ops) :
    let lazy : TimedCache α := empty ttl capacity origin
    let eager : EagerCache α := .empty ttl capacity
    let t := (lazy.performAll ops).2
    let e := (eager.performAll ops).2
    (lazy.performAll ops).1 = (eager.performAll ops).1 ∧
    (∀ n, (lazy.performAll (ops.insertIdx n .purge)).1 =
      (lazy.performAll ops).1.insertIdx n .done) ∧
    (∀ key, t.cache.peek? t.now key = (e.find? key).map Item.value) ∧
    (t.cache.purge t.now).1 + e.items.length = t.cache.slots.length := by
  intro lazy eager t e
  have hstart : lazy.Tracks eager := tracks_empty ttl capacity origin
  have hnow : t.now < origin + UInt64.size := by
    change t.now - origin < UInt64.size at htime
    omega
  have hb := hstart.bounded_performAll hdecided hnow
  obtain ⟨hanswers, hrun⟩ := hstart.performAll hdecided hb
  refine ⟨hanswers, ?_, hrun.peek?, hrun.purge_fst⟩
  intro n
  have hpurged := eager.performAll_insert_purge ops n
  obtain ⟨hn, -⟩ := hstart.performAll (hdecided.insert_purge n) (by rwa [hpurged])
  rw [hn, hpurged, hanswers]

def evicting : List (CacheUse String Nat) :=
  [.fetch "a" (fun _ => .ok 1) 1, .fetch "b" (fun _ => .ok 2) 1, .get "b", .advance 3,
    .fetch "c" (fun _ => .error "no") 1, .get "a", .fetch "c" (fun _ => .ok 3) 0, .contains "b",
    .advance 9, .size, .purge, .fetch "b" (fun _ => .ok 4) 0, .advance 11, .get "b"]

theorem refines_eager_evicting :
    ((empty 10 2 5).performAll evicting).1 =
      [.fetched (.ok 1) true, .fetched (.ok 2) true, .found (some 2), .done,
        .fetched (.error "no") true, .found none, .fetched (.ok 3) true, .holds true,
        .done, .counted 1, .done, .fetched (.ok 4) true, .done, .found none] ∧
      ((empty 10 2 5).performAll evicting).1 = ((EagerCache.empty 10 2).performAll evicting).1 :=
  ⟨rfl, (refines_eager 10 2 5 evicting (by decide) (by decide)).1⟩

end TimedCache
end FaultInjection
