import FaultInjection.Proofs.Cache.Contents
import Mathlib.Data.Finset.Card
import Mathlib.Data.List.TakeDrop

namespace FaultInjection

structure Access where
  key : String
  time : Nat
deriving DecidableEq

def Access.fresh (ttl now : Nat) (a : Access) : Bool :=
  now - a.time ≤ ttl

/-- The log has the newest access first. -/
def Resident (ttl capacity now : Nat) (log : List Access) (key : String) : Prop :=
  ∃ newer time older, log = newer ++ ⟨key, time⟩ :: older ∧ (∀ a ∈ newer, a.key ≠ key) ∧
    now - time ≤ ttl ∧ (newer.map Access.key).toFinset.card < max 1 capacity

namespace Access

variable {log newer older : List Access} {a b : Access} {ttl room now soon : Nat}

def lastByKey : List Access → List Access
  | [] => []
  | a :: log => a :: (lastByKey log).filter fun b => b.key != a.key

def residents (ttl room now : Nat) (log : List Access) : List Access :=
  ((lastByKey log).filter (fresh ttl now)).take room

@[simp] theorem residents_nil (ttl room now : Nat) : residents ttl room now [] = [] :=
  List.take_nil

theorem lastByKey_sublist (log : List Access) : (lastByKey log).Sublist log := by
  induction log with
  | nil => exact .slnil
  | cons a log ih => exact (List.filter_sublist.trans ih).cons_cons a

theorem nodup_lastByKey (log : List Access) : ((lastByKey log).map Access.key).Nodup := by
  induction log with
  | nil => exact .nil
  | cons a log ih =>
    refine List.nodup_cons.2 ⟨?_, ih.sublist (List.filter_sublist.map _)⟩
    simp

theorem mem_lastByKey : a ∈ lastByKey log ↔
    ∃ newer older, log = newer ++ a :: older ∧ ∀ b ∈ newer, b.key ≠ a.key := by
  induction log with
  | nil => simp [lastByKey]
  | cons c log ih =>
    simp only [lastByKey, List.mem_cons, List.mem_filter, ih, bne_iff_ne]
    constructor
    · rintro (rfl | ⟨⟨newer, older, rfl, hn⟩, hk⟩)
      · exact ⟨[], log, rfl, by simp⟩
      · refine ⟨c :: newer, older, rfl, ?_⟩
        simpa using ⟨hk.symm, hn⟩
    · rintro ⟨newer, older, hlog, hn⟩
      cases newer with
      | nil => exact .inl (List.cons.inj hlog).1.symm
      | cons d newer =>
        obtain ⟨rfl, rfl⟩ := List.cons.inj hlog
        have hd := hn c List.mem_cons_self
        exact .inr ⟨⟨newer, older, rfl, fun b hb => hn b (List.mem_cons_of_mem _ hb)⟩, hd.symm⟩

theorem lastByKey_append (newer log : List Access) :
    lastByKey (newer ++ log) =
      lastByKey newer ++ (lastByKey log).filter fun b => b.key ∉ newer.map Access.key := by
  induction newer with
  | nil => simp [lastByKey]
  | cons a newer ih =>
    rw [List.cons_append, lastByKey, ih, lastByKey, List.filter_append, List.filter_filter,
      List.cons_append]
    congr 2
    apply List.filter_congr
    intro b _
    by_cases hb : b.key = a.key
    · simp [hb]
    · simp [hb]

theorem length_lastByKey (log : List Access) :
    (lastByKey log).length = (log.map Access.key).toFinset.card := by
  have hkeys : ((lastByKey log).map Access.key).toFinset = (log.map Access.key).toFinset := by
    induction log with
    | nil => rfl
    | cons a log ih =>
      ext key
      have hkey := Finset.ext_iff.1 ih key
      simp only [List.mem_toFinset, List.mem_map] at hkey
      simp only [lastByKey, List.mem_toFinset, List.map_cons, List.mem_cons, List.mem_map,
        List.mem_filter, bne_iff_ne, ← hkey]
      constructor
      · rintro (h | ⟨b, ⟨hb, -⟩, h⟩)
        · exact .inl h
        · exact .inr ⟨b, hb, h⟩
      · rintro (h | ⟨b, hb, rfl⟩)
        · exact .inl h
        · by_cases hk : b.key = a.key
          · exact .inl hk
          · exact .inr ⟨b, ⟨hb, hk⟩, rfl⟩
  rw [← hkeys, List.toFinset_card_of_nodup (nodup_lastByKey log), List.length_map]

theorem filter_take {p : Access → Bool} {as : List Access}
    (h : as.Pairwise fun a b => p b = true → p a = true) (n : Nat) :
    (as.take n).filter p = (as.filter p).take n := by
  induction as generalizing n with
  | nil => simp
  | cons a as ih =>
    obtain ⟨ha, has⟩ := List.pairwise_cons.1 h
    cases n with
    | zero => simp
    | succ n =>
      by_cases hp : p a = true
      · simp [hp, ih has]
      · -- Nothing after an element that fails the test passes it.
        have hnone : as.filter p = [] := by
          apply List.filter_eq_nil_iff.2
          intro b hb hpb
          exact hp (ha b hb hpb)
        have htake : (as.take n).filter p = [] := by rw [ih has, hnone, List.take_nil]
        simp [hp, hnone, htake]

theorem take_without {as : List Access} (h : (as.map Access.key).Nodup) (key : String) (n : Nat) :
    ((as.take (n + 1)).filter fun b => b.key != key).take n =
      (as.filter fun b => b.key != key).take n := by
  induction as generalizing n with
  | nil => simp
  | cons a as ih =>
    obtain ⟨ha, has⟩ := List.nodup_cons.1 h
    by_cases hk : a.key = key
    · subst hk
      have hne : ∀ b ∈ as, (b.key != a.key) = true := by
        intro b hb
        exact bne_iff_ne.2 fun hba => ha (List.mem_map.2 ⟨b, hb, hba⟩)
      have htake : ∀ b ∈ as.take n, (b.key != a.key) = true := fun b hb =>
        hne b (List.mem_of_mem_take hb)
      simp [List.filter_eq_self.2 hne, List.filter_eq_self.2 htake]
    · cases n with
      | zero => simp
      | succ n => simp [hk, ih has]

theorem pairwise_fresh (h : NewestFirst now (log.map Access.time)) (ttl soon : Nat) :
    log.Pairwise fun a b => b.fresh ttl soon = true → a.fresh ttl soon = true := by
  refine (List.pairwise_map.1 h.pairwise).imp ?_
  intro a b hab hb
  simp only [Access.fresh, decide_eq_true_eq] at hb ⊢
  omega

theorem residents_later (h : NewestFirst now (log.map Access.time)) (hs : now ≤ soon) :
    (residents ttl room now log).filter (Access.fresh ttl soon) = residents ttl room soon log := by
  have hsub : ((lastByKey log).filter (Access.fresh ttl now)).Sublist log :=
    List.filter_sublist.trans (lastByKey_sublist log)
  have hp := (pairwise_fresh h ttl soon).sublist hsub
  rw [residents, filter_take hp, filter_filter_of_imp, residents]
  intro a ha
  simp only [Access.fresh, decide_eq_true_eq] at ha ⊢
  omega

theorem residents_sublist (ttl room now : Nat) (log : List Access) :
    (residents ttl room now log).Sublist log :=
  (List.take_sublist _ _).trans (List.filter_sublist.trans (lastByKey_sublist log))

theorem length_residents_le (ttl room now : Nat) (log : List Access) :
    (residents ttl room now log).length ≤ room :=
  List.length_take_le _ _

theorem residents_cons (hroom : 0 < room) (ttl now : Nat) (key : String) (log : List Access) :
    residents ttl room now (⟨key, now⟩ :: log) =
      ⟨key, now⟩ ::
        ((residents ttl room now log).filter fun b => b.key != key).take (room - 1) := by
  obtain ⟨n, rfl⟩ : ∃ n, room = n + 1 := ⟨room - 1, by omega⟩
  have hkeys :=
    (nodup_lastByKey log).sublist (List.filter_sublist (p := Access.fresh ttl now).map _)
  have hnew : Access.fresh ttl now ⟨key, now⟩ = true := by simp [Access.fresh]
  rw [residents, lastByKey, List.filter_cons_of_pos hnew, List.take_succ_cons, Nat.add_sub_cancel,
    residents, take_without hkeys]
  simp only [List.filter_filter, Bool.and_comm]

theorem lastByKey_split (hk : ∀ b ∈ newer, b.key ≠ a.key) (older : List Access) :
    ∃ rest, lastByKey (newer ++ a :: older) = lastByKey newer ++ a :: rest := by
  rw [lastByKey_append, lastByKey]
  exact ⟨_, congrArg _ (List.filter_cons_of_pos (by simpa using hk))⟩

theorem mem_residents (ho : NewestFirst now ((newer ++ a :: older).map Access.time))
    (hk : ∀ b ∈ newer, b.key ≠ a.key) (ha : a.fresh ttl now = true) :
    a ∈ residents ttl room now (newer ++ a :: older) ↔
      (newer.map Access.key).toFinset.card < room := by
  -- The access stands right after the last accesses to the texts in `newer`, which are all fresh.
  obtain ⟨rest, hlatest⟩ := lastByKey_split hk older
  have hnewer : ∀ b ∈ lastByKey newer, b.fresh ttl now = true := by
    intro b hb
    have hp := List.pairwise_append.1 (pairwise_fresh ho ttl now)
    exact hp.2.2 b ((lastByKey_sublist newer).subset hb) a List.mem_cons_self ha
  have hnot : a ∉ lastByKey newer := fun hm => hk a ((lastByKey_sublist newer).subset hm) rfl
  have hmem : a ∈ lastByKey newer ++ a :: rest.filter (Access.fresh ttl now) := by simp
  rw [residents, hlatest, List.filter_append, List.filter_eq_self.2 hnewer,
    List.filter_cons_of_pos ha, List.mem_take_iff_idxOf_lt hmem,
    List.idxOf_append_of_notMem hnot, List.idxOf_cons_self, length_lastByKey, Nat.add_zero]

theorem resident_iff {capacity : Nat} {key : String} (h : NewestFirst now (log.map Access.time)) :
    Resident ttl capacity now log key ↔
      ∃ a ∈ residents ttl (max 1 capacity) now log, a.key = key := by
  constructor
  · rintro ⟨newer, time, older, rfl, hk, hfresh, hcard⟩
    have ha : Access.fresh ttl now ⟨key, time⟩ = true := decide_eq_true hfresh
    exact ⟨⟨key, time⟩, (mem_residents h hk ha).2 hcard, rfl⟩
  · rintro ⟨a, ha, rfl⟩
    have hf := List.mem_filter.1 (List.mem_of_mem_take ha)
    obtain ⟨newer, older, rfl, hk⟩ := mem_lastByKey.1 hf.1
    exact ⟨newer, a.time, older, rfl, hk, of_decide_eq_true hf.2, (mem_residents h hk hf.2).1 ha⟩

end Access

end FaultInjection
