import FaultInjection.Proofs.Cache.Contents

namespace FaultInjection

inductive CacheUse (ε α : Type)
  | get (key : String)
  | fetch (key : String) (compile : String → Except ε α) (span : Nat)
  | contains (key : String)
  | size
  | advance (span : Nat)
  | purge
  | clear

def CacheUse.CompilesBy {ε α : Type} (compile : String → Except ε α) : CacheUse ε α → Prop
  | .fetch _ f _ => f = compile
  | _ => True

inductive CacheAnswer (ε α : Type)
  | found (v : Option α)
  | fetched (r : Except ε α) (compiled : Bool)
  | holds (b : Bool)
  | counted (n : Nat)
  | done

structure TimedCache (α : Type) where
  cache : Cache α
  now : Nat

namespace TimedCache

variable {ε α : Type}

def empty (ttl capacity origin : Nat) : TimedCache α :=
  ⟨.empty ttl capacity origin, origin⟩

def perform (t : TimedCache α) : CacheUse ε α → CacheAnswer ε α × TimedCache α
  | .get key =>
    let (v, c) := t.cache.get? t.now key
    (.found v, ⟨c, t.now⟩)
  | .fetch key compile span =>
    let (r, c) := t.cache.getOrCompileUntil t.now (t.now + span) key compile
    let compiled := t.cache.compiles < c.compiles
    (.fetched r compiled, ⟨c, if compiled then t.now + span else t.now⟩)
  | .contains key => (.holds (t.cache.contains t.now key), t)
  | .size => (.counted (t.cache.size t.now), t)
  | .advance span => (.done, ⟨t.cache, t.now + span⟩)
  | .purge => (.done, ⟨(t.cache.purge t.now).2, t.now⟩)
  | .clear => (.done, ⟨t.cache.clear, t.now⟩)

def performAll (t : TimedCache α) : List (CacheUse ε α) → List (CacheAnswer ε α) × TimedCache α
  | [] => ([], t)
  | op :: ops =>
    let (answer, t) := t.perform op
    let (answers, t) := performAll t ops
    (answer :: answers, t)

variable {t : TimedCache α} {key : String}

section fetch

variable {compile : String → Except ε α} {v : α}

theorem fetch_hit (hp : t.cache.peek? t.now key = some v) (span : Nat) :
    t.perform (.fetch key compile span) =
      (.fetched (.ok v) false, ⟨t.cache.touch (t.cache.stamp t.now) key, t.now⟩) := by
  have hc : ¬ t.cache.compiles < (t.cache.touch (t.cache.stamp t.now) key).compiles :=
    Nat.lt_irrefl _
  simp only [perform, Cache.getOrCompileUntil_hit hp, hc, decide_false, if_false]

theorem fetch_ok (hp : t.cache.peek? t.now key = none) (hv : compile key = .ok v) (span : Nat) :
    t.perform (.fetch key compile span) =
      (.fetched (.ok v) true,
        ⟨{ t.cache with
          slots := (t.cache.makeRoom (t.cache.stamp t.now) key).slots ++
            [⟨key, some v, max (t.cache.stamp t.now) (t.cache.stamp (t.now + span))⟩]
          compiles := t.cache.compiles + 1 }, t.now + span⟩) := by
  simp only [perform, Cache.getOrCompileUntil_ok hp hv, Nat.lt_succ_self, decide_true, if_true]

theorem fetch_error {err : ε} (hp : t.cache.peek? t.now key = none)
    (hv : compile key = .error err) (span : Nat) :
    t.perform (.fetch key compile span) =
      (.fetched (.error err) true,
        ⟨{ t.cache with
          slots := (t.cache.makeRoom (t.cache.stamp t.now) key).slots
          compiles := t.cache.compiles + 1 }, t.now + span⟩) := by
  simp only [perform, Cache.getOrCompileUntil_error hp hv, Nat.lt_succ_self, decide_true, if_true]

end fetch

theorem compiles_getOrCompileUntil (t : TimedCache α) (done : Nat) (key : String)
    (compile : String → Except ε α) :
    (t.cache.getOrCompileUntil t.now done key compile).2.compiles = t.cache.compiles ↔
      (t.cache.peek? t.now key).isSome := by
  cases hp : t.cache.peek? t.now key with
  | some v =>
    rw [Cache.getOrCompileUntil_hit hp]
    exact iff_of_true rfl rfl
  | none =>
    have hne : t.cache.compiles + 1 ≠ t.cache.compiles := Nat.succ_ne_self _
    cases hv : compile key with
    | ok v =>
      rw [Cache.getOrCompileUntil_ok hp hv]
      exact iff_of_false hne nofun
    | error err =>
      rw [Cache.getOrCompileUntil_error hp hv]
      exact iff_of_false hne nofun

theorem perform_settings (t : TimedCache α) (op : CacheUse ε α) :
    (t.perform op).2.cache.ttl = t.cache.ttl ∧
      (t.perform op).2.cache.capacity = t.cache.capacity ∧
      (t.perform op).2.cache.origin = t.cache.origin := by
  cases op with
  | get key =>
    simp only [perform, Cache.get?]
    split <;> exact ⟨rfl, rfl, rfl⟩
  | fetch key compile span =>
    cases hp : t.cache.peek? t.now key with
    | some v =>
      rw [fetch_hit hp]
      exact ⟨rfl, rfl, rfl⟩
    | none =>
      cases hv : compile key with
      | error err =>
        rw [fetch_error hp hv]
        exact ⟨rfl, rfl, rfl⟩
      | ok v =>
        rw [fetch_ok hp hv]
        exact ⟨rfl, rfl, rfl⟩
  | contains | size | advance | purge | clear => exact ⟨rfl, rfl, rfl⟩

theorem performAll_settings (t : TimedCache α) (ops : List (CacheUse ε α)) :
    (t.performAll ops).2.cache.ttl = t.cache.ttl ∧
      (t.performAll ops).2.cache.capacity = t.cache.capacity ∧
      (t.performAll ops).2.cache.origin = t.cache.origin := by
  induction ops generalizing t with
  | nil => exact ⟨rfl, rfl, rfl⟩
  | cons op ops ih =>
    obtain ⟨httl, hcapacity, horigin⟩ := t.perform_settings op
    rw [← httl, ← hcapacity, ← horigin]
    exact ih _

theorem holds_perform (h : ∃ items, t.cache.Holds items) (op : CacheUse ε α) :
    ∃ items, (t.perform op).2.cache.Holds items := by
  obtain ⟨items, hh⟩ := h
  cases op with
  | get key =>
    simp only [perform, Cache.get?]
    cases hp : t.cache.peek? t.now key with
    | none => exact ⟨items, hh⟩
    | some v => exact hh.touch_of_peek? hp _
  | fetch key compile span =>
    cases hp : t.cache.peek? t.now key with
    | some v =>
      rw [fetch_hit hp]
      exact hh.touch_of_peek? hp _
    | none =>
      obtain ⟨kept, hk⟩ := hh.makeRoom (t.cache.stamp t.now) key
      cases hv : compile key with
      | error err =>
        rw [fetch_error hp hv]
        exact ⟨kept, hk.slots, hk.keys⟩
      | ok v =>
        rw [fetch_ok hp hv]
        have ha := hk.append (fun _ hs => Cache.key_ne_of_mem_makeRoom hs) v
          (max (t.cache.stamp t.now) (t.cache.stamp (t.now + span)))
        exact ⟨_, ha.slots, ha.keys⟩
  | purge => exact ⟨_, hh.dropExpired _⟩
  | clear => exact ⟨[], Cache.holds_clear _⟩
  | contains | size | advance => exact ⟨items, hh⟩

theorem holds_performAll (h : ∃ items, t.cache.Holds items) (ops : List (CacheUse ε α)) :
    ∃ items, (t.performAll ops).2.cache.Holds items := by
  induction ops generalizing t with
  | nil => exact h
  | cons op ops ih => exact ih (holds_perform h op)

theorem now_le_perform (t : TimedCache α) (op : CacheUse ε α) : t.now ≤ (t.perform op).2.now := by
  cases op with
  | fetch key compile span =>
    simp only [TimedCache.perform]
    split <;> omega
  | advance span => exact Nat.le_add_right _ _
  | get | contains | size | purge | clear => exact Nat.le_refl _

theorem now_le_performAll (t : TimedCache α) (ops : List (CacheUse ε α)) :
    t.now ≤ (t.performAll ops).2.now := by
  induction ops generalizing t with
  | nil => exact Nat.le_refl _
  | cons op ops ih => exact Nat.le_trans (t.now_le_perform op) (ih _)

end TimedCache
end FaultInjection
