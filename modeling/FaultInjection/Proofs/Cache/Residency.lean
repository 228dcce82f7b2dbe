import FaultInjection.Proofs.Cache.AccessLog
import FaultInjection.Proofs.Cache.Eager

namespace FaultInjection

def CacheUse.Compiles {ε α : Type} : CacheUse ε α → Prop
  | .fetch key compile _ => ∃ v, compile key = .ok v
  | _ => True

namespace TimedCache

variable {ε α : Type} {t : TimedCache α} {e : EagerCache α} {log : List Access} {key : String}

def accessed? : CacheUse ε α → CacheAnswer ε α → Option String
  | .get key, .found (some _) => some key
  | .fetch key _ _, .fetched (.ok _) _ => some key
  | _, _ => none

def logged (t : TimedCache α) (log : List Access) : CacheUse ε α → List Access
  | .clear => []
  | op =>
    match accessed? op (t.perform op).1 with
    | some key => ⟨key, (t.perform op).2.now⟩ :: log
    | none => log

def logAll (t : TimedCache α) (log : List Access) : List (CacheUse ε α) → List Access
  | [] => log
  | op :: ops => logAll (t.perform op).2 (t.logged log op) ops

def access (origin : Nat) (i : Item α) : Access :=
  ⟨i.key, origin + i.used⟩

structure Follows (t : TimedCache α) (e : EagerCache α) (log : List Access) : Prop where
  tracks : t.Tracks e
  ordered : NewestFirst t.now (log.map Access.time)
  items : e.items.map (access t.cache.origin) = Access.residents e.ttl e.room t.now log

theorem map_access_without (origin : Nat) (items : List (Item α)) (key : String) :
    (Item.without items key).map (access origin) =
      (items.map (access origin)).filter fun a => a.key != key := by
  rw [List.filter_map]
  rfl

theorem map_access_fresh {items : List (Item α)} (origin ttl now : Nat) :
    (items.filter (Item.fresh ttl now)).map (access origin) =
      (items.map (access origin)).filter (Access.fresh ttl (origin + now)) := by
  rw [List.filter_map]
  congr 2
  funext i
  simp [Access.fresh, Item.fresh, access, Nat.add_sub_add_left]

theorem Follows.room_pos (h : Follows t e log) : 0 < e.room :=
  h.tracks.room ▸ t.cache.capacity_pos

theorem Follows.length_items_le (h : Follows t e log) : e.items.length ≤ e.room := by
  have hle := Access.length_residents_le e.ttl e.room t.now log
  rwa [← h.items, List.length_map] at hle

theorem Follows.untied (h : Follows t e log) (hd : (log.map Access.time).Nodup) : e.Untied := by
  have hsub := (Access.residents_sublist e.ttl e.room t.now log).map Access.time
  have htimes := hd.sublist hsub
  rw [← h.items, List.map_map] at htimes
  -- Two items that were both used longest ago were used at one time, so by one access.
  intro i hi j hj hile hjle
  have hused : i.used = j.used := Nat.le_antisymm (hile j hj) (hjle i hi)
  have htime : (Access.time ∘ access t.cache.origin) i = (Access.time ∘ access t.cache.origin) j :=
    congrArg (t.cache.origin + ·) hused
  exact congrArg Item.key (List.inj_on_of_nodup_map htimes hi hj htime)

theorem Follows.decided (h : Follows t e log) (hd : (log.map Access.time).Nodup)
    (op : CacheUse ε α) : e.Decided op := by
  cases op with
  | fetch key compile span => exact fun _ _ => h.untied hd
  | get | contains | size | advance | purge | clear => exact trivial

theorem Follows.mem_residents (h : Follows t e log) (key : String) :
    (∃ a ∈ Access.residents e.ttl e.room t.now log, a.key = key) ↔ (e.find? key).isSome := by
  rw [← h.items]
  cases hi : e.find? key with
  | none =>
    have hn := Item.find?_eq_none_iff.1 hi
    simp only [List.mem_map, Option.isSome_none, Bool.false_eq_true, iff_false]
    rintro ⟨_, ⟨i, him, rfl⟩, hk⟩
    exact hn i him hk
  | some i =>
    simp only [Option.isSome_some, iff_true]
    exact ⟨_, List.mem_map_of_mem (Item.mem_of_find? hi), Item.key_of_find? hi⟩

theorem Follows.items_hit (h : Follows t e log) {i : Item α} (hi : e.find? key = some i) :
    (e.use key i.value).items.map (access t.cache.origin) =
      Access.residents e.ttl e.room t.now (⟨key, t.now⟩ :: log) := by
  have hgone : (Item.without e.items key).length < e.items.length := by
    apply List.length_filter_lt_length_iff_exists.2
    exact ⟨i, Item.mem_of_find? hi, by simp [Item.key_of_find? hi]⟩
  have hlength : ((Item.without e.items key).map (access t.cache.origin)).length ≤ e.room - 1 := by
    have := h.length_items_le
    rw [List.length_map]
    omega
  have hnew : access t.cache.origin ⟨key, i.value, e.now⟩ = ⟨key, t.now⟩ := by
    simp only [access, h.tracks.now]
  rw [Access.residents_cons h.room_pos, ← h.items, ← map_access_without,
    List.take_of_length_le hlength, EagerCache.use, List.map_cons, hnew]

theorem Follows.makeRoom_eq (h : Follows t e log) :
    e.makeRoom = { e with items := e.items.take (e.room - 1) } := by
  have hle := h.length_items_le
  by_cases hfull : e.room ≤ e.items.length
  · have he : e.makeRoom = { e with items := e.items.dropLast } := if_pos hfull
    have hlength : e.items.length = e.room := by omega
    rw [he, List.dropLast_eq_take, hlength]
  · have he : e.makeRoom = e := if_neg hfull
    rw [he, List.take_of_length_le (by omega)]

theorem Follows.items_miss (h : Follows t e log) (hn : e.find? key = none) (span : Nat) (v : α) :
    ((e.makeRoom.advance span).use key v).items.map (access t.cache.origin) =
      Access.residents e.ttl e.room (t.now + span) (⟨key, t.now + span⟩ :: log) := by
  -- Room is made before the text is compiled and items may expire while it is, but the log is read
  -- when it has been: expiry has to be moved past the cut.
  let kept := (e.items.take (e.room - 1)).filter (Item.fresh e.ttl (e.now + span))
  let stay := (Access.residents e.ttl e.room t.now log).filter (Access.fresh e.ttl (t.now + span))
  have hnow : t.cache.origin + (e.now + span) = t.now + span := by
    have := h.tracks.now
    omega
  have hne : ∀ i ∈ e.items, i.key ≠ key := Item.find?_eq_none_iff.1 hn
  have hkept : Item.without kept key = kept := by
    apply Item.without_eq_self
    intro i hi
    exact hne i (List.mem_of_mem_take (List.mem_filter.1 hi).1)
  have hstay : stay.filter (fun a => a.key != key) = stay := by
    apply List.filter_eq_self.2
    intro a ha
    have hm := (List.mem_filter.1 ha).1
    rw [← h.items] at hm
    obtain ⟨i, hi, rfl⟩ := List.mem_map.1 hm
    exact bne_iff_ne.2 (hne i hi)
  have hp := (Access.pairwise_fresh h.ordered e.ttl (t.now + span)).sublist
    (Access.residents_sublist e.ttl e.room t.now log)
  have hleft : ((e.makeRoom.advance span).use key v).items = ⟨key, v, e.now + span⟩ :: kept := by
    rw [h.makeRoom_eq]
    exact congrArg _ hkept
  have hright := Access.residents_cons h.room_pos e.ttl (t.now + span) key log
  rw [← Access.residents_later h.ordered (Nat.le_add_right _ _), hstay,
    ← Access.filter_take hp, ← h.items] at hright
  rw [hleft, hright, List.map_cons, map_access_fresh, List.map_take, hnow]
  simp only [access, hnow]

theorem Follows.items_advance (h : Follows t e log) (span : Nat) :
    (e.advance span).items.map (access t.cache.origin) =
      Access.residents e.ttl e.room (t.now + span) log := by
  have hnow : t.cache.origin + (e.now + span) = t.now + span := by
    have := h.tracks.now
    omega
  rw [← Access.residents_later h.ordered (Nat.le_add_right _ _), ← h.items, EagerCache.advance,
    map_access_fresh, hnow]

theorem Follows.perform (h : Follows t e log) {op : CacheUse ε α} (hop : op.Compiles)
    (hd : (log.map Access.time).Nodup)
    (hb : (t.perform op).2.now < t.cache.origin + UInt64.size) :
    Follows (t.perform op).2 (e.perform op).2 (t.logged log op) := by
  have hnow := h.tracks.now_perform op
  obtain ⟨-, htracks⟩ := h.tracks.perform (h.decided hd op) (by omega)
  obtain ⟨httl, hcapacity, horigin⟩ := t.perform_settings op
  have httl' : (e.perform op).2.ttl = e.ttl := by
    rw [← htracks.ttl, httl, h.tracks.ttl]
  have hroom : (e.perform op).2.room = e.room := by
    rw [← htracks.room, hcapacity, h.tracks.room]
  suffices hs : NewestFirst (t.perform op).2.now ((t.logged log op).map Access.time) ∧
      (e.perform op).2.items.map (access t.cache.origin) =
        Access.residents e.ttl e.room (t.perform op).2.now (t.logged log op) by
    refine ⟨htracks, hs.1, ?_⟩
    rw [horigin, httl', hroom, hs.2]
  cases op with
  | get key =>
    cases hi : e.find? key with
    | none =>
      have hp := h.tracks.miss hi
      simp only [logged, TimedCache.perform, EagerCache.perform, Cache.get?, hp, hi, accessed?]
      exact ⟨h.ordered, h.items⟩
    | some i =>
      have hp := h.tracks.hit hi
      simp only [logged, TimedCache.perform, EagerCache.perform, Cache.get?, hp, hi, accessed?]
      exact ⟨h.ordered.cons, h.items_hit hi⟩
  | fetch key compile span =>
    cases hi : e.find? key with
    | some i =>
      simp only [logged, fetch_hit (h.tracks.hit hi), EagerCache.perform, hi, accessed?]
      exact ⟨h.ordered.cons, h.items_hit hi⟩
    | none =>
      obtain ⟨v, hv⟩ := hop
      simp only [logged, fetch_ok (h.tracks.miss hi) hv, EagerCache.perform, hi, hv, accessed?]
      exact ⟨(h.ordered.later (Nat.le_add_right _ _)).cons, h.items_miss hi span v⟩
  | contains key => exact ⟨h.ordered, h.items⟩
  | size => exact ⟨h.ordered, h.items⟩
  | advance span => exact ⟨h.ordered.later (Nat.le_add_right _ _), h.items_advance span⟩
  | purge => exact ⟨h.ordered, h.items⟩
  | clear => exact ⟨.nil _, (Access.residents_nil _ _ _).symm⟩

theorem follows_clear (ho : t.cache.origin ≤ t.now) (hb : t.now < t.cache.origin + UInt64.size) :
    Follows ⟨t.cache.clear, t.now⟩
      ⟨t.cache.ttl, t.cache.capacity, t.now - t.cache.origin, []⟩ [] where
  tracks := by
    refine ⟨rfl, rfl, ?_, ?_, [], Cache.holds_clear _, .nil _, rfl⟩
    · change t.now = t.cache.origin + (t.now - t.cache.origin)
      omega
    · change t.now - t.cache.origin < UInt64.size
      omega
  ordered := .nil _
  items := (Access.residents_nil _ _ _).symm

theorem sublist_logged (t : TimedCache α) (log : List Access) (op : CacheUse ε α) :
    op = .clear ∨ log.Sublist (t.logged log op) := by
  cases op with
  | clear => exact .inl rfl
  | get | fetch | contains | size | advance | purge =>
    refine .inr ?_
    simp only [logged]
    split
    · exact List.sublist_cons_self _ _
    · exact .refl _

theorem follows_performAll {ops : List (CacheUse ε α)} (hops : ∀ op ∈ ops, op.Compiles)
    (ho : t.cache.origin ≤ t.now) (h : (log.map Access.time).Nodup → ∃ e, Follows t e log)
    (hb : (t.performAll ops).2.now < t.cache.origin + UInt64.size)
    (hd : ((t.logAll log ops).map Access.time).Nodup) :
    ∃ e, Follows (t.performAll ops).2 e (t.logAll log ops) := by
  induction ops generalizing t log with
  | nil => exact h hd
  | cons op ops ih =>
    have horigin := (t.perform_settings op).2.2
    have hle := t.now_le_perform op
    have hlast := (t.perform op).2.now_le_performAll ops
    change ((t.perform op).2.performAll ops).2.now < _ at hb
    apply ih (fun op hm => hops op (List.mem_cons_of_mem _ hm)) (by omega) _ (by omega) hd
    intro hlogged
    rcases t.sublist_logged log op with rfl | hsub
    · -- The log starts again, so times that were equal before do not matter.
      exact ⟨_, follows_clear ho (by omega)⟩
    · have hlog := hlogged.sublist (hsub.map Access.time)
      obtain ⟨e, he⟩ := h hlog
      exact ⟨_, he.perform (hops op List.mem_cons_self) hlog (by omega)⟩

theorem holds_iff_resident (ttl capacity origin : Nat) (ops : List (CacheUse ε α))
    (hops : ∀ op ∈ ops, op.Compiles)
    (htime : ((empty ttl capacity origin : TimedCache α).performAll ops).2.now - origin <
      UInt64.size)
    (hdistinct : (((empty ttl capacity origin : TimedCache α).logAll [] ops).map
      Access.time).Nodup) (key : String) :
    let t := ((empty ttl capacity origin : TimedCache α).performAll ops).2
    let log := (empty ttl capacity origin : TimedCache α).logAll [] ops
    (t.cache.contains t.now key = true ↔ Resident ttl capacity t.now log key) ∧
    ∀ done, ∀ compile : String → Except ε α,
      (t.cache.getOrCompileUntil t.now done key compile).2.compiles = t.cache.compiles ↔
        Resident ttl capacity t.now log key := by
  intro t log
  have hnow : t.now < origin + UInt64.size := by
    change t.now - origin < UInt64.size at htime
    omega
  have hstart : Follows (empty ttl capacity origin : TimedCache α) (.empty ttl capacity) [] :=
    ⟨tracks_empty ttl capacity origin, .nil _, (Access.residents_nil _ _ _).symm⟩
  obtain ⟨e, he⟩ := follows_performAll hops (Nat.le_refl _) (fun _ => ⟨_, hstart⟩) hnow hdistinct
  obtain ⟨httl, hcapacity, -⟩ := (empty ttl capacity origin : TimedCache α).performAll_settings ops
  have hresident : Resident ttl capacity t.now log key ↔ (e.find? key).isSome := by
    rw [Access.resident_iff he.ordered, ← he.mem_residents key, ← he.tracks.ttl, ← he.tracks.room,
      httl, hcapacity]
    rfl
  constructor
  · rw [he.tracks.contains, hresident]
  · intro done compile
    rw [t.compiles_getOrCompileUntil, he.tracks.peek?, hresident, Option.isSome_map]

def revisiting : List (CacheUse String Nat) :=
  [.fetch "a" (fun _ => .ok 1) 1, .fetch "b" (fun _ => .ok 2) 1, .advance 1, .get "a",
    .contains "b", .advance 1, .fetch "c" (fun _ => .ok 3) 0, .advance 9, .purge]

theorem holds_iff_resident_revisiting :
    (empty 10 2 5 : TimedCache Nat).logAll [] revisiting =
        [⟨"c", 9⟩, ⟨"a", 8⟩, ⟨"b", 7⟩, ⟨"a", 6⟩] ∧
      Resident 10 2 18 [⟨"c", 9⟩, ⟨"a", 8⟩, ⟨"b", 7⟩, ⟨"a", 6⟩] "a" ∧
      ¬ Resident 10 2 18 [⟨"c", 9⟩, ⟨"a", 8⟩, ⟨"b", 7⟩, ⟨"a", 6⟩] "b" := by
  have hops : ∀ op ∈ revisiting, op.Compiles := by
    simp [revisiting, CacheUse.Compiles]
  have hkept := holds_iff_resident 10 2 5 revisiting hops (by decide) (by decide) "a"
  have hgone := holds_iff_resident 10 2 5 revisiting hops (by decide) (by decide) "b"
  exact ⟨rfl, hkept.1.1 rfl, fun h => nomatch hgone.1.2 h⟩

end TimedCache
end FaultInjection
