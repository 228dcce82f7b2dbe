import FaultInjection.Cache.Basic
import Mathlib.Data.List.Nodup

/-!
What a cache holds between two of its operations, whatever the order of its slots: no text is being
compiled then, so every slot has a value.
-/
namespace FaultInjection

theorem filter_filter_of_imp {β : Type} {p q : β → Bool} (h : ∀ x, q x = true → p x = true)
    (xs : List β) : (xs.filter p).filter q = xs.filter q := by
  rw [List.filter_filter]
  apply List.filter_congr
  intro x _
  exact Bool.and_eq_left_iff_imp.2 (h x)

def NewestFirst (now : Nat) (times : List Nat) : Prop :=
  (now :: times).Pairwise (· ≥ ·)

namespace NewestFirst

variable {now soon time : Nat} {times : List Nat}

theorem nil (now : Nat) : NewestFirst now [] :=
  List.pairwise_singleton _ _

theorem le (h : NewestFirst now times) (ht : time ∈ times) : time ≤ now :=
  (List.pairwise_cons.1 h).1 time ht

theorem pairwise (h : NewestFirst now times) : times.Pairwise (· ≥ ·) :=
  (List.pairwise_cons.1 h).2

theorem sublist {kept : List Nat} (h : NewestFirst now times) (hs : kept.Sublist times) :
    NewestFirst now kept :=
  List.Pairwise.sublist (hs.cons_cons _) h

theorem later (h : NewestFirst now times) (hs : now ≤ soon) : NewestFirst soon times :=
  List.pairwise_cons.2 ⟨fun _ ht => Nat.le_trans (h.le ht) hs, h.pairwise⟩

theorem cons (h : NewestFirst now times) : NewestFirst now (now :: times) := by
  refine List.pairwise_cons.2 ⟨?_, h⟩
  intro time ht
  rcases List.mem_cons.1 ht with rfl | ht
  · exact Nat.le_refl _
  · exact h.le ht

end NewestFirst

structure Item (α : Type) where
  key : String
  value : α
  used : Nat

namespace Item

variable {α : Type}

def slot (i : Item α) : Slot α :=
  ⟨i.key, some i.value, i.used⟩

@[simp] theorem slot_key (i : Item α) : i.slot.key = i.key := rfl

def fresh (ttl now : Nat) (i : Item α) : Bool :=
  now - i.used ≤ ttl

def find? (items : List (Item α)) (key : String) : Option (Item α) :=
  items.find? fun i => i.key == key

def without (items : List (Item α)) (key : String) : List (Item α) :=
  items.filter fun i => i.key != key

variable {items : List (Item α)} {i j : Item α} {key : String}

theorem eq_of_key (h : (items.map Item.key).Nodup) (hi : i ∈ items) (hj : j ∈ items)
    (hk : i.key = j.key) : i = j :=
  List.inj_on_of_nodup_map h hi hj hk

theorem find?_eq_none_iff : find? items key = none ↔ ∀ i ∈ items, i.key ≠ key := by
  simp [find?]

theorem mem_of_find? (h : find? items key = some i) : i ∈ items :=
  List.mem_of_find?_eq_some h

theorem key_of_find? (h : find? items key = some i) : i.key = key := by
  simpa using List.find?_some h

theorem find?_eq_some_iff (h : (items.map Item.key).Nodup) :
    find? items key = some i ↔ i ∈ items ∧ i.key = key := by
  constructor
  · intro hf
    exact ⟨mem_of_find? hf, key_of_find? hf⟩
  · rintro ⟨hi, hk⟩
    cases hf : find? items key with
    | none => exact absurd hk (find?_eq_none_iff.1 hf i hi)
    | some j =>
      have hj : j.key = i.key := (key_of_find? hf).trans hk.symm
      rw [eq_of_key h (mem_of_find? hf) hi hj]

theorem find?_filter (h : (items.map Item.key).Nodup) (p : Item α → Bool) (key : String) :
    find? (items.filter p) key = (find? items key).filter p := by
  have hp : ((items.filter p).map Item.key).Nodup :=
    h.sublist (List.filter_sublist.map _)
  apply Option.ext
  intro i
  rw [find?_eq_some_iff hp, Option.filter_eq_some_iff, find?_eq_some_iff h, List.mem_filter]
  tauto

@[simp] theorem mem_without : i ∈ without items key ↔ i ∈ items ∧ i.key ≠ key := by
  simp [without]

theorem without_eq_self (h : ∀ i ∈ items, i.key ≠ key) : without items key = items :=
  List.filter_eq_self.2 fun i hi => by simpa using h i hi

theorem without_filter (p : Item α → Bool) :
    without (items.filter p) key = (without items key).filter p := by
  simp only [without, List.filter_filter, Bool.and_comm]

theorem find?_without (h : (items.map Item.key).Nodup) (gone key : String) :
    find? (without items gone) key = if key = gone then none else find? items key := by
  rw [without, find?_filter h]
  cases hf : find? items key with
  | none => simp
  | some i =>
    have hk := key_of_find? hf
    by_cases hg : key = gone
    · simp [Option.filter, hk, hg]
    · simp [Option.filter, hk, hg]

theorem filter_fresh_later {ttl now soon : Nat} (h : now ≤ soon) (items : List (Item α)) :
    (items.filter (fresh ttl now)).filter (fresh ttl soon) = items.filter (fresh ttl soon) := by
  apply filter_filter_of_imp
  intro i hi
  simp only [fresh, decide_eq_true_eq] at hi ⊢
  omega

theorem perm_cons_without (h : (items.map Item.key).Nodup) (hi : i ∈ items) :
    items.Perm (i :: without items i.key) := by
  have hd : (i :: without items i.key).Nodup := by
    refine List.nodup_cons.2 ⟨by simp, ?_⟩
    exact (h.of_map _).filter _
  apply (List.perm_ext_iff_of_nodup (h.of_map _) hd).2
  intro j
  rw [List.mem_cons, mem_without]
  constructor
  · intro hj
    by_cases hk : j.key = i.key
    · exact .inl (eq_of_key h hj hi hk)
    · exact .inr ⟨hj, hk⟩
  · rintro (rfl | ⟨hj, -⟩)
    · exact hi
    · exact hj

end Item

structure Cache.Holds {α : Type} (c : Cache α) (items : List (Item α)) : Prop where
  slots : c.slots.Perm (items.map Item.slot)
  keys : (items.map Item.key).Nodup

namespace Cache

variable {α : Type} {c : Cache α} {items : List (Item α)}

theorem stamp_mono (c : Cache α) {now later : Nat} (h : now ≤ later) :
    c.stamp now ≤ c.stamp later := by
  unfold stamp
  omega

theorem holds_clear (c : Cache α) : c.clear.Holds [] where
  slots := .nil
  keys := .nil

theorem Holds.length (h : c.Holds items) : c.slots.length = items.length := by
  rw [h.slots.length_eq, List.length_map]

theorem Holds.mem_slots (h : c.Holds items) {s : Slot α} :
    s ∈ c.slots ↔ ∃ i ∈ items, i.slot = s := by
  rw [h.slots.mem_iff, List.mem_map]

theorem Holds.keys_slots (h : c.Holds items) : (c.slots.map Slot.key).Nodup := by
  have hk : (items.map Item.slot).map Slot.key = items.map Item.key := by
    rw [List.map_map]
    rfl
  rw [(h.slots.map Slot.key).nodup_iff, hk]
  exact h.keys

theorem not_expired_slot (c : Cache α) (stamp : Nat) (i : Item α) :
    (!c.expired stamp i.slot) = i.fresh c.ttl stamp := by
  change (!decide (c.ttl < stamp - i.used)) = decide (stamp - i.used ≤ c.ttl)
  simp only [← decide_not, Nat.not_lt]

theorem Holds.find? (h : c.Holds items) (key : String) :
    c.find? key = (Item.find? items key).map Item.slot := by
  cases hi : Item.find? items key with
  | none =>
    apply List.find?_eq_none.2
    intro s hs
    obtain ⟨i, hm, rfl⟩ := h.mem_slots.1 hs
    simpa using Item.find?_eq_none_iff.1 hi i hm
  | some i =>
    obtain ⟨hm, hk⟩ := (Item.find?_eq_some_iff h.keys).1 hi
    cases hs : c.find? key with
    | none =>
      have hn := List.find?_eq_none.1 hs i.slot (h.mem_slots.2 ⟨i, hm, rfl⟩)
      exact absurd hk (by simpa using hn)
    | some s =>
      obtain ⟨j, hj, rfl⟩ := h.mem_slots.1 (List.mem_of_find?_eq_some hs)
      have hjk : j.key = key := by simpa using List.find?_some hs
      rw [Item.eq_of_key h.keys hj hm (hjk.trans hk.symm), Option.map_some]

theorem Holds.peek? (h : c.Holds items) (now : Nat) (key : String) :
    c.peek? now key =
      (Item.find? (items.filter (Item.fresh c.ttl (c.stamp now))) key).map Item.value := by
  rw [Item.find?_filter h.keys, Cache.peek?, h.find?]
  cases Item.find? items key with
  | none => rfl
  | some i =>
    have hf := not_expired_slot c (c.stamp now) i
    simp only [Option.map_some, Option.filter_some, ← hf]
    cases c.expired (c.stamp now) i.slot <;> rfl

theorem contains_eq (c : Cache α) (now : Nat) (key : String) :
    c.contains now key = (c.peek? now key).isSome := by
  unfold contains peek? live
  cases c.find? key with
  | none => rfl
  | some s =>
    simp only
    cases c.expired (c.stamp now) s with
    | false => simp
    | true => simp

theorem Holds.size (h : c.Holds items) (now : Nat) :
    c.size now = (items.filter (Item.fresh c.ttl (c.stamp now))).length := by
  have hl : c.live (c.stamp now) ∘ Item.slot = Item.fresh c.ttl (c.stamp now) := by
    funext i
    rw [← not_expired_slot]
    rfl
  rw [Cache.size, h.slots.countP_eq, List.countP_map, hl, List.countP_eq_length_filter]

theorem Holds.filter (h : c.Holds items) {p : Slot α → Bool} {q : Item α → Bool}
    (hq : ∀ i, p i.slot = q i) : Holds { c with slots := c.slots.filter p } (items.filter q) where
  slots := by
    have hp : p ∘ Item.slot = q := funext hq
    have hs := h.slots.filter p
    rwa [List.filter_map, hp] at hs
  keys := h.keys.sublist (List.filter_sublist.map _)

theorem Holds.remove (h : c.Holds items) (key : String) :
    (c.remove key).Holds (Item.without items key) :=
  h.filter fun _ => rfl

theorem Holds.dropExpired (h : c.Holds items) (stamp : Nat) :
    (c.dropExpired stamp).Holds (items.filter (Item.fresh c.ttl stamp)) :=
  h.filter (not_expired_slot c stamp)

theorem Holds.perm (h : c.Holds items) {others : List (Item α)} (hp : items.Perm others) :
    c.Holds others where
  slots := h.slots.trans (hp.map _)
  keys := (hp.map _).nodup_iff.1 h.keys

theorem Holds.touch (h : c.Holds items) {i : Item α} (hi : i ∈ items) (stamp : Nat) :
    (c.touch stamp i.key).Holds
      ({ i with used := max i.used stamp } :: Item.without items i.key) := by
  -- With the item in front, only the head of the list changes.
  have hp := h.perm (Item.perm_cons_without h.keys hi)
  refine ⟨?_, hp.keys⟩
  have hs := hp.slots.map fun s =>
    if s.key == i.key then { s with lastAccess := max s.lastAccess stamp } else s
  refine hs.trans (.of_eq ?_)
  rw [List.map_cons, List.map_cons, List.map_map]
  congr 1
  · simp [Item.slot]
  · apply List.map_congr_left
    intro j hj
    simp [Item.slot, (Item.mem_without.1 hj).2]

theorem Holds.touch_of_peek? (h : c.Holds items) {now : Nat} {key : String} {v : α}
    (hp : c.peek? now key = some v) (stamp : Nat) : ∃ others, (c.touch stamp key).Holds others := by
  rw [h.peek?] at hp
  obtain ⟨i, hi, -⟩ := Option.map_eq_some_iff.1 hp
  have hm := List.mem_filter.1 (Item.mem_of_find? hi)
  obtain rfl := Item.key_of_find? hi
  exact ⟨_, h.touch hm.1 stamp⟩

theorem of_oldest?_cons {s t : Slot α} {ts : List (Slot α)} (h : oldest? (t :: ts) = some s) :
    (t.value = none ∧ oldest? ts = some s) ∨
      (t = s ∧ ∀ u, oldest? ts = some u → t.lastAccess ≤ u.lastAccess) ∨
      (oldest? ts = some s ∧ s.lastAccess ≤ t.lastAccess) := by
  rw [oldest?] at h
  by_cases ht : t.value.isNone = true
  · rw [if_pos ht] at h
    exact .inl ⟨Option.isNone_iff_eq_none.1 ht, h⟩
  · rw [if_neg ht] at h
    cases hu : oldest? ts with
    | none =>
      rw [hu] at h
      exact .inr (.inl ⟨Option.some.inj h, nofun⟩)
    | some u =>
      rw [hu] at h
      dsimp only at h
      by_cases hle : t.lastAccess ≤ u.lastAccess
      · rw [if_pos hle] at h
        refine .inr (.inl ⟨Option.some.inj h, fun w hw => ?_⟩)
        rw [← Option.some.inj hw]
        exact hle
      · rw [if_neg hle] at h
        cases h
        exact .inr (.inr ⟨rfl, by omega⟩)

theorem oldest?_cons_eq_none {t : Slot α} {ts : List (Slot α)} (h : oldest? (t :: ts) = none) :
    t.value = none ∧ oldest? ts = none := by
  rw [oldest?] at h
  by_cases ht : t.value.isNone = true
  · rw [if_pos ht] at h
    exact ⟨Option.isNone_iff_eq_none.1 ht, h⟩
  · rw [if_neg ht] at h
    cases hu : oldest? ts with
    | none =>
      rw [hu] at h
      cases h
    | some u =>
      rw [hu] at h
      dsimp only at h
      split at h
      · cases h
      · cases h

theorem oldest?_mem {slots : List (Slot α)} {s : Slot α} (h : oldest? slots = some s) :
    s ∈ slots := by
  induction slots with
  | nil => cases h
  | cons t ts ih =>
    rcases of_oldest?_cons h with ⟨-, hs⟩ | ⟨rfl, -⟩ | ⟨hs, -⟩
    · exact List.mem_cons_of_mem _ (ih hs)
    · exact List.mem_cons_self
    · exact List.mem_cons_of_mem _ (ih hs)

theorem oldest?_eq_none {slots : List (Slot α)} (h : oldest? slots = none) :
    ∀ s ∈ slots, s.value = none := by
  induction slots with
  | nil => exact nofun
  | cons t ts ih =>
    obtain ⟨ht, hts⟩ := oldest?_cons_eq_none h
    exact List.forall_mem_cons.2 ⟨ht, ih hts⟩

theorem oldest?_le {slots : List (Slot α)} {s t : Slot α} (h : oldest? slots = some s)
    (ht : t ∈ slots) (hv : t.value ≠ none) : s.lastAccess ≤ t.lastAccess := by
  induction slots generalizing s with
  | nil => cases h
  | cons u us ih =>
    rcases of_oldest?_cons h with ⟨hu, hs⟩ | ⟨rfl, hle⟩ | ⟨hs, hle⟩
    · rcases List.mem_cons.1 ht with rfl | ht
      · exact absurd hu hv
      · exact ih hs ht
    · rcases List.mem_cons.1 ht with rfl | ht
      · exact Nat.le_refl _
      · cases hw : oldest? us with
        | none => exact absurd (oldest?_eq_none hw t ht) hv
        | some w => exact Nat.le_trans (hle w hw) (ih hw ht)
    · rcases List.mem_cons.1 ht with rfl | ht
      · exact hle
      · exact ih hs ht

theorem exists_oldest? {slots : List (Slot α)} (hv : ∀ s ∈ slots, s.value ≠ none)
    (hne : slots ≠ []) : ∃ s ∈ slots, oldest? slots = some s := by
  cases ho : oldest? slots with
  | some s => exact ⟨s, oldest?_mem ho, rfl⟩
  | none =>
    obtain ⟨s, hs⟩ := List.exists_mem_of_ne_nil slots hne
    exact absurd (oldest?_eq_none ho s hs) (hv s hs)

def makeRoom (c : Cache α) (stamp : Nat) (key : String) : Cache α :=
  let c := c.remove key
  if c.capacity ≤ c.slots.length then c.evict stamp else c

theorem makeRoom_eq (c : Cache α) (stamp : Nat) (key : String) :
    c.makeRoom stamp key = { c with slots := (c.makeRoom stamp key).slots } := by
  simp only [makeRoom, evict]
  split
  · split
    · rfl
    · split <;> rfl
  · rfl

theorem makeRoom_slots_sublist (c : Cache α) (stamp : Nat) (key : String) :
    (c.makeRoom stamp key).slots.Sublist (c.remove key).slots := by
  simp only [makeRoom, evict]
  split
  · split
    · exact List.filter_sublist
    · split
      · exact List.filter_sublist.trans List.filter_sublist
      · exact List.filter_sublist
  · exact .refl _

theorem claim_eq (c : Cache α) (stamp : Nat) (key : String) :
    c.claim stamp key =
      { c.makeRoom stamp key with slots := (c.makeRoom stamp key).slots ++ [⟨key, none, stamp⟩] } :=
  rfl

theorem evict_of_lt {stamp : Nat} (h : (c.dropExpired stamp).slots.length < c.capacity) :
    c.evict stamp = c.dropExpired stamp :=
  if_pos h

theorem evict_of_oldest {stamp : Nat} {s : Slot α}
    (h : c.capacity ≤ (c.dropExpired stamp).slots.length)
    (hs : oldest? (c.dropExpired stamp).slots = some s) :
    c.evict stamp = (c.dropExpired stamp).remove s.key := by
  have hn : ¬ (c.dropExpired stamp).slots.length < (c.dropExpired stamp).capacity :=
    Nat.not_lt.2 h
  simp only [evict, if_neg hn, hs]

theorem evict_of_full (hv : ∀ s ∈ c.slots, s.value ≠ none) {stamp : Nat}
    (hfull : c.capacity ≤ (c.dropExpired stamp).slots.length) :
    ∃ s ∈ (c.dropExpired stamp).slots, oldest? (c.dropExpired stamp).slots = some s ∧
      (∀ r ∈ (c.dropExpired stamp).slots, s.lastAccess ≤ r.lastAccess) ∧
      c.evict stamp = (c.dropExpired stamp).remove s.key := by
  have hkept : ∀ s ∈ (c.dropExpired stamp).slots, s.value ≠ none := fun s hs =>
    hv s (List.filter_sublist.subset hs)
  have hpos := Nat.lt_of_lt_of_le c.capacity_pos hfull
  obtain ⟨s, hs, ho⟩ := exists_oldest? hkept (List.ne_nil_of_length_pos hpos)
  exact ⟨s, hs, ho, fun r hr => oldest?_le ho hr (hkept r hr), evict_of_oldest hfull ho⟩

theorem Holds.value_ne_none (h : c.Holds items) : ∀ s ∈ c.slots, s.value ≠ none := by
  intro s hs
  obtain ⟨i, -, rfl⟩ := h.mem_slots.1 hs
  nofun

theorem Holds.evict_full (h : c.Holds items) {stamp : Nat}
    (hfull : c.capacity ≤ (items.filter (Item.fresh c.ttl stamp)).length) :
    ∃ i ∈ items.filter (Item.fresh c.ttl stamp),
      (∀ j ∈ items.filter (Item.fresh c.ttl stamp), i.used ≤ j.used) ∧
      (c.evict stamp).Holds (Item.without (items.filter (Item.fresh c.ttl stamp)) i.key) := by
  have hd := h.dropExpired stamp
  obtain ⟨s, hs, -, hle, he⟩ := evict_of_full h.value_ne_none (hd.length ▸ hfull)
  obtain ⟨i, hi, rfl⟩ := hd.mem_slots.1 hs
  rw [he]
  refine ⟨i, hi, ?_, hd.remove i.key⟩
  intro j hj
  exact hle j.slot (hd.mem_slots.2 ⟨j, hj, rfl⟩)

theorem Holds.makeRoom_of_lt (h : c.Holds items) {stamp : Nat} {key : String}
    (hroom : ((Item.without items key).filter (Item.fresh c.ttl stamp)).length < c.capacity) :
    ∃ kept, (c.makeRoom stamp key).Holds kept ∧ kept.Sublist (Item.without items key) ∧
      kept.filter (Item.fresh c.ttl stamp) =
        (Item.without items key).filter (Item.fresh c.ttl stamp) := by
  have hr := h.remove key
  have hd := hr.dropExpired stamp
  by_cases hfull : c.capacity ≤ (c.remove key).slots.length
  · have hc : c.makeRoom stamp key = (c.remove key).evict stamp := if_pos hfull
    rw [hc, evict_of_lt (hd.length ▸ hroom)]
    exact ⟨_, hd, List.filter_sublist, List.filter_eq_self.2 fun i hi => (List.mem_filter.1 hi).2⟩
  · have hc : c.makeRoom stamp key = c.remove key := if_neg hfull
    rw [hc]
    exact ⟨_, hr, .refl _, rfl⟩

theorem Holds.makeRoom_full (h : c.Holds items) {stamp : Nat} {key : String}
    (hfull : c.capacity ≤ ((Item.without items key).filter (Item.fresh c.ttl stamp)).length) :
    ∃ i ∈ (Item.without items key).filter (Item.fresh c.ttl stamp),
      (∀ j ∈ (Item.without items key).filter (Item.fresh c.ttl stamp), i.used ≤ j.used) ∧
      (c.makeRoom stamp key).Holds
        (Item.without ((Item.without items key).filter (Item.fresh c.ttl stamp)) i.key) := by
  have hr := h.remove key
  have hlength : c.capacity ≤ (c.remove key).slots.length := by
    rw [hr.length]
    exact Nat.le_trans hfull List.filter_sublist.length_le
  have hc : c.makeRoom stamp key = (c.remove key).evict stamp := if_pos hlength
  rw [hc]
  exact hr.evict_full hfull

theorem Holds.makeRoom (h : c.Holds items) (stamp : Nat) (key : String) :
    ∃ kept, (c.makeRoom stamp key).Holds kept := by
  rcases Nat.lt_or_ge ((Item.without items key).filter (Item.fresh c.ttl stamp)).length c.capacity
    with hroom | hfull
  · obtain ⟨kept, hk, -, -⟩ := h.makeRoom_of_lt hroom
    exact ⟨kept, hk⟩
  · obtain ⟨i, -, -, hk⟩ := h.makeRoom_full hfull
    exact ⟨_, hk⟩

theorem Holds.append (h : c.Holds items) {key : String} (hk : ∀ s ∈ c.slots, s.key ≠ key) (v : α)
    (used : Nat) :
    Holds { c with slots := c.slots ++ [⟨key, some v, used⟩] } (⟨key, v, used⟩ :: items) where
  slots := (h.slots.append_right _).trans List.perm_append_comm
  keys := by
    refine List.nodup_cons.2 ⟨?_, h.keys⟩
    intro hm
    obtain ⟨i, hi, hik⟩ := List.mem_map.1 hm
    exact hk i.slot (h.mem_slots.2 ⟨i, hi, rfl⟩) hik

theorem key_ne_of_mem_makeRoom {stamp : Nat} {key : String} {s : Slot α}
    (h : s ∈ (c.makeRoom stamp key).slots) : s.key ≠ key := by
  have hr := (makeRoom_slots_sublist c stamp key).subset h
  simpa using (List.mem_filter.1 hr).2

theorem fill_claim (c : Cache α) (stamp done : Nat) (key : String) (v : α) :
    ((c.claim stamp key).fill done key v).slots =
      (c.makeRoom stamp key).slots ++ [⟨key, some v, max stamp done⟩] := by
  let store : Slot α → Slot α := fun s =>
    if s.key == key then { s with value := some v, lastAccess := max s.lastAccess done } else s
  have hkept : ∀ s ∈ (c.makeRoom stamp key).slots, store s = id s := fun s hs =>
    if_neg (by simpa using key_ne_of_mem_makeRoom hs)
  change List.map store ((c.makeRoom stamp key).slots ++ [⟨key, none, stamp⟩]) = _
  rw [List.map_append, List.map_congr_left hkept, List.map_id]
  simp [store]

theorem remove_claim (c : Cache α) (stamp : Nat) (key : String) :
    ((c.claim stamp key).remove key).slots = (c.makeRoom stamp key).slots := by
  have hkept : ∀ s ∈ (c.makeRoom stamp key).slots, (s.key != key) = true := fun s hs => by
    simpa using key_ne_of_mem_makeRoom hs
  change List.filter (fun s => s.key != key)
    ((c.makeRoom stamp key).slots ++ [⟨key, none, stamp⟩]) = _
  rw [List.filter_append, List.filter_eq_self.2 hkept]
  simp

section getOrCompile

variable {ε : Type} {now : Nat} {key : String} {compile : String → Except ε α}

theorem getOrCompileUntil_hit {v : α} (h : c.peek? now key = some v) (done : Nat) :
    c.getOrCompileUntil now done key compile = (.ok v, c.touch (c.stamp now) key) := by
  simp only [getOrCompileUntil, h]

theorem getOrCompileUntil_ok {v : α} (h : c.peek? now key = none) (hv : compile key = .ok v)
    (done : Nat) :
    c.getOrCompileUntil now done key compile =
      (.ok v, { c with
        slots := (c.makeRoom (c.stamp now) key).slots ++
          [⟨key, some v, max (c.stamp now) (c.stamp done)⟩]
        compiles := c.compiles + 1 }) := by
  rw [← fill_claim]
  simp only [getOrCompileUntil, h, hv]
  rw [claim_eq, makeRoom_eq]
  rfl

theorem getOrCompileUntil_error {e : ε} (h : c.peek? now key = none) (he : compile key = .error e)
    (done : Nat) :
    c.getOrCompileUntil now done key compile =
      (.error e, { c with
        slots := (c.makeRoom (c.stamp now) key).slots
        compiles := c.compiles + 1 }) := by
  rw [← remove_claim]
  simp only [getOrCompileUntil, h, he]
  rw [claim_eq, makeRoom_eq]
  rfl

end getOrCompile

end Cache
end FaultInjection
