namespace FaultInjection

namespace Entries

variable {α β : Type}

def get? (k : String) : List (String × α) → Option α
  | [] => none
  | (k', v) :: es => if k = k' then some v else get? k es

def insert (k : String) (v : α) : List (String × α) → List (String × α)
  | [] => [(k, v)]
  | (k', v') :: es =>
    if k < k' then (k, v) :: (k', v') :: es
    else if k = k' then (k, v) :: es
    else (k', v') :: insert k v es

def Sorted (es : List (String × α)) : Prop :=
  es.Pairwise fun a b => a.1 < b.1

def ofPairs (ps : List (String × α)) : List (String × α) :=
  ps.foldl (fun es p => insert p.1 p.2 es) []

theorem mem_insert {k : String} {v : α} {p : String × α} {es : List (String × α)}
    (h : p ∈ insert k v es) : p = (k, v) ∨ p ∈ es := by
  induction es with
  | nil => simpa [insert] using h
  | cons e es ih =>
    rw [insert] at h
    split at h
    · simpa using h
    · split at h
      · simp only [List.mem_cons] at h ⊢
        exact h.imp_right .inr
      · rcases List.mem_cons.1 h with h | h
        · exact .inr (h ▸ List.mem_cons_self)
        · exact (ih h).imp_right (List.mem_cons_of_mem _)

theorem sorted_insert {k : String} {v : α} {es : List (String × α)} (h : Sorted es) :
    Sorted (insert k v es) := by
  induction es with
  | nil => simp [insert, Sorted]
  | cons e es ih =>
    obtain ⟨k', v'⟩ := e
    have ⟨hlt, hes⟩ := List.pairwise_cons.1 h
    rw [insert]
    split
    · next hk =>
      refine List.pairwise_cons.2 ⟨fun p hp => ?_, h⟩
      rcases List.mem_cons.1 hp with rfl | hp
      · exact hk
      · exact String.lt_trans hk (hlt p hp)
    · next hk =>
      split
      · next he => exact List.pairwise_cons.2 ⟨fun p hp => he ▸ hlt p hp, hes⟩
      · next he =>
        refine List.pairwise_cons.2 ⟨fun p hp => ?_, ih hes⟩
        rcases mem_insert hp with rfl | hp
        · rcases String.le_total k k' with hle | hle
          · exact absurd (String.le_antisymm hle (String.not_lt.1 hk)) he
          · exact Decidable.byContradiction fun hn =>
              he (String.le_antisymm (String.not_lt.1 hn) hle)
        · exact hlt p hp

@[simp, grind =] theorem get?_insert_self {k : String} {v : α} {es : List (String × α)} :
    get? k (insert k v es) = some v := by
  induction es with
  | nil => simp [insert, get?]
  | cons e es ih =>
    rw [insert]
    split
    · simp [get?]
    · split
      · simp [get?]
      · next h => simp [get?, h, ih]

@[simp, grind =] theorem get?_insert_ne {k k' : String} {v : α} {es : List (String × α)}
    (h : k' ≠ k) : get? k' (insert k v es) = get? k' es := by
  induction es with
  | nil => simp [insert, get?, h]
  | cons e es ih =>
    rw [insert]
    split
    · simp [get?, h]
    · split
      · next he => subst he; simp [get?, h]
      · simp [get?, ih]

theorem get?_map (f : α → β) (k : String) (es : List (String × α)) :
    get? k (es.map fun e => (e.1, f e.2)) = (get? k es).map f := by
  induction es with
  | nil => rfl
  | cons e es ih =>
    obtain ⟨k', v⟩ := e
    rw [List.map_cons, get?, get?]
    split
    · rfl
    · exact ih

theorem mem_keys_iff {k : String} {es : List (String × α)} :
    k ∈ es.map (·.1) ↔ (get? k es).isSome = true := by
  induction es with
  | nil => simp [get?]
  | cons e es ih =>
    obtain ⟨k', v⟩ := e
    rw [List.map_cons, List.mem_cons, ih, get?]
    split
    · next h => simp [h]
    · next h => simp [h]

theorem get?_eq_none_of_lt {k : String} {es : List (String × α)} (h : ∀ p ∈ es, k < p.1) :
    get? k es = none := by
  induction es with
  | nil => rfl
  | cons e es ih =>
    obtain ⟨k', v⟩ := e
    have hne : k ≠ k' := fun he => String.lt_irrefl k' (he ▸ h (k', v) List.mem_cons_self)
    rw [get?, if_neg hne]
    exact ih fun p hp => h p (List.mem_cons_of_mem _ hp)

theorem get?_filter {es : List (String × α)} (h : Sorted es) (p : String → α → Bool) (k : String) :
    get? k (es.filter fun e => p e.1 e.2) = (get? k es).filter (p k) := by
  induction es with
  | nil => rfl
  | cons e es ih =>
    obtain ⟨k', v⟩ := e
    have ⟨hlt, hes⟩ := List.pairwise_cons.1 h
    have hrest := ih hes
    rw [List.filter_cons]
    by_cases hk : k = k'
    · subst hk
      -- Keys behind `k` are larger, so what is dropped here is not found there.
      have hgone : get? k es = none := get?_eq_none_of_lt hlt
      split
      · next hp =>
        simp only at hp
        simp [get?, Option.filter, hp]
      · next hp =>
        simp only at hp
        simp [get?, Option.filter, hrest, hgone, hp]
    · split
      · rw [get?, get?, if_neg hk, if_neg hk, hrest]
      · rw [get?, if_neg hk, hrest]

theorem value_unique {k : String} {v w : α} {es : List (String × α)} (h : Sorted es)
    (hv : (k, v) ∈ es) (hw : (k, w) ∈ es) : v = w := by
  induction es with
  | nil => cases hv
  | cons e es ih =>
    obtain ⟨hlt, hes⟩ := List.pairwise_cons.1 h
    rcases List.mem_cons.1 hv with rfl | hv'
    · rcases List.mem_cons.1 hw with heq | hw'
      · exact (Prod.mk.inj heq).2.symm
      · exact absurd (hlt _ hw') (String.lt_irrefl k)
    · rcases List.mem_cons.1 hw with rfl | hw'
      · exact absurd (hlt _ hv') (String.lt_irrefl k)
      · exact ih hes hv' hw'

theorem get?_eq_some_iff {k : String} {v : α} {es : List (String × α)} (h : Sorted es) :
    get? k es = some v ↔ (k, v) ∈ es := by
  induction es with
  | nil => simp [get?]
  | cons e es ih =>
    obtain ⟨k', v'⟩ := e
    obtain ⟨hlt, hes⟩ := List.pairwise_cons.1 h
    rw [get?, List.mem_cons]
    split
    · next hk =>
      subst hk
      have hgone : (k, v) ∉ es := fun hm => String.lt_irrefl k (hlt _ hm)
      simp [hgone, eq_comm]
    · next hk => simp [ih hes, hk]

theorem mem_insert_self {k : String} {v : α} {es : List (String × α)} : (k, v) ∈ insert k v es := by
  induction es with
  | nil => exact List.mem_cons_self
  | cons e es ih =>
    rw [insert]
    split
    · exact List.mem_cons_self
    · split
      · exact List.mem_cons_self
      · exact List.mem_cons_of_mem e ih

theorem mem_insert_of_ne {k : String} {v : α} {p : String × α} {es : List (String × α)}
    (h : p ∈ es) (hne : p.1 ≠ k) : p ∈ insert k v es := by
  induction es with
  | nil => cases h
  | cons e es ih =>
    rw [insert]
    split
    · exact List.mem_cons_of_mem _ h
    · split
      · next hk =>
        rcases List.mem_cons.1 h with rfl | h
        · exact absurd hk.symm hne
        · exact List.mem_cons_of_mem _ h
      · rcases List.mem_cons.1 h with rfl | h
        · exact List.mem_cons_self
        · exact List.mem_cons_of_mem e (ih h)

theorem filter_insert_of_neg {p : String → Bool} {k : String} (v : α) {es : List (String × α)}
    (hk : p k = false) :
    (insert k v es).filter (fun e => p e.1) = es.filter fun e => p e.1 := by
  induction es with
  | nil => simp [insert, hk]
  | cons e es ih =>
    rw [insert]
    split
    · simp [hk]
    · split
      · next he => simp [← he, hk]
      · rw [List.filter_cons, List.filter_cons, ih]

theorem filter_insert_of_pos {p : String → Bool} {k : String} (v : α) {es : List (String × α)}
    (hk : p k = true) (hes : ∀ e ∈ es, p e.1 = false) :
    (insert k v es).filter (fun e => p e.1) = [(k, v)] := by
  induction es with
  | nil => simp [insert, hk]
  | cons e es ih =>
    obtain ⟨hne, hrest⟩ := List.forall_mem_cons.1 hes
    have hnone : es.filter (fun e => p e.1) = [] :=
      List.filter_eq_nil_iff.2 fun d hd => by simp [hrest d hd]
    rw [insert]
    split
    · simp [hk, hne, hnone]
    · split
      · simp [hk, hnone]
      · simp [hne, ih hrest]

theorem mem_ofPairs {p : String × α} {ps : List (String × α)} (h : p ∈ ofPairs ps) : p ∈ ps := by
  suffices ∀ es : List (String × α), p ∈ ps.foldl (fun es q => insert q.1 q.2 es) es →
      p ∈ es ∨ p ∈ ps from (this [] h).resolve_left List.not_mem_nil
  clear h
  induction ps with
  | nil => exact fun es h => .inl h
  | cons q ps ih =>
    intro es h
    rcases ih _ h with h | h
    · rcases mem_insert h with rfl | h
      · exact .inr List.mem_cons_self
      · exact .inl h
    · exact .inr (List.mem_cons_of_mem q h)

theorem mem_ofPairs_iff {p : String × α} {ps : List (String × α)}
    (h : ps.Pairwise fun q r => q.1 ≠ r.1) : p ∈ ofPairs ps ↔ p ∈ ps := by
  refine ⟨mem_ofPairs, fun hp => ?_⟩
  suffices ∀ es : List (String × α), p ∈ ps ∨ p ∈ es ∧ (∀ q ∈ ps, p.1 ≠ q.1) →
      p ∈ ps.foldl (fun es q => insert q.1 q.2 es) es from this [] (.inl hp)
  clear hp
  induction ps with
  | nil => exact fun es he => (he.resolve_left List.not_mem_nil).1
  | cons q ps ih =>
    obtain ⟨hq, hps⟩ := List.pairwise_cons.1 h
    intro es he
    apply ih hps
    rcases he with hmem | ⟨hmem, hne⟩
    · rcases List.mem_cons.1 hmem with rfl | hmem
      · exact .inr ⟨mem_insert_self, hq⟩
      · exact .inl hmem
    · exact .inr ⟨mem_insert_of_ne hmem (hne q List.mem_cons_self),
        fun r hr => hne r (List.mem_cons_of_mem q hr)⟩

theorem mem_keys_insert {k k' : String} {v : α} {es : List (String × α)} :
    k' ∈ (insert k v es).map (·.1) ↔ k' = k ∨ k' ∈ es.map (·.1) := by
  rw [mem_keys_iff, mem_keys_iff]
  by_cases h : k' = k
  · simp [h]
  · simp [h]

theorem mem_keys_ofPairs {k : String} {ps : List (String × α)} :
    k ∈ (ofPairs ps).map (·.1) ↔ k ∈ ps.map (·.1) := by
  suffices ∀ es : List (String × α), k ∈ (ps.foldl (fun es p => insert p.1 p.2 es) es).map (·.1) ↔
      k ∈ es.map (·.1) ∨ k ∈ ps.map (·.1) by
    rw [ofPairs, this []]
    simp
  induction ps with
  | nil => simp
  | cons p ps ih =>
    intro es
    rw [List.foldl_cons, ih, mem_keys_insert, List.map_cons, List.mem_cons]
    grind

theorem sorted_ofPairs {ps : List (String × α)} : Sorted (ofPairs ps) := by
  suffices ∀ es : List (String × α), Sorted es →
      Sorted (ps.foldl (fun es p => insert p.1 p.2 es) es) from this [] List.Pairwise.nil
  induction ps with
  | nil => exact fun _ h => h
  | cons p ps ih => exact fun es h => ih _ (sorted_insert h)

theorem insert_of_lt {k : String} {v : α} {es : List (String × α)} (h : ∀ p ∈ es, p.1 < k) :
    insert k v es = es ++ [(k, v)] := by
  induction es with
  | nil => rfl
  | cons e es ih =>
    obtain ⟨k', v'⟩ := e
    have hlt : k' < k := h (k', v') List.mem_cons_self
    have hge : ¬ k < k' := fun hk => String.lt_irrefl k (String.lt_trans hk hlt)
    have hne : k ≠ k' := fun he => String.lt_irrefl k' (he ▸ hlt)
    rw [insert, if_neg hge, if_neg hne, ih fun p hp => h p (List.mem_cons_of_mem _ hp)]
    rfl

theorem ofPairs_of_sorted {es : List (String × α)} (h : Sorted es) : ofPairs es = es := by
  suffices ∀ done : List (String × α), Sorted (done ++ es) →
      es.foldl (fun es p => insert p.1 p.2 es) done = done ++ es from this [] h
  clear h
  induction es with
  | nil => exact fun done _ => (List.append_nil done).symm
  | cons e es ih =>
    intro done h
    have hlast : ∀ p ∈ done, p.1 < e.1 := fun p hp =>
      (List.pairwise_append.1 h).2.2 p hp e List.mem_cons_self
    rw [List.append_cons] at h
    rw [List.foldl_cons, insert_of_lt hlast, ih _ h, ← List.append_cons]

end Entries

structure Dict (α : Type) where
  entries : List (String × α)
  sorted : Entries.Sorted entries

namespace Dict

variable {α β : Type}

def empty : Dict α := ⟨[], List.Pairwise.nil⟩

instance : EmptyCollection (Dict α) := ⟨empty⟩

instance : Inhabited (Dict α) := ⟨empty⟩

def get? (d : Dict α) (k : String) : Option α :=
  Entries.get? k d.entries

def insert (d : Dict α) (k : String) (v : α) : Dict α :=
  ⟨Entries.insert k v d.entries, Entries.sorted_insert d.sorted⟩

def ofList (ps : List (String × α)) : Dict α :=
  ⟨Entries.ofPairs ps, Entries.sorted_ofPairs⟩

def toList (d : Dict α) : List (String × α) := d.entries

def keys (d : Dict α) : List String := d.entries.map (·.1)

def size (d : Dict α) : Nat := d.entries.length

def contains (d : Dict α) (k : String) : Bool := (d.get? k).isSome

def filter (p : String → α → Bool) (d : Dict α) : Dict α :=
  ⟨d.entries.filter fun e => p e.1 e.2, d.sorted.filter _⟩

def erase (d : Dict α) (k : String) : Dict α :=
  d.filter fun k' _ => k' != k

def merge (d winner : Dict α) : Dict α :=
  winner.entries.foldl (fun d e => d.insert e.1 e.2) d

def map (f : α → β) (d : Dict α) : Dict β :=
  ⟨d.entries.map fun e => (e.1, f e.2), by
    simpa [Entries.Sorted, List.pairwise_map] using d.sorted⟩

@[ext] theorem ext {d e : Dict α} (h : d.entries = e.entries) : d = e := by
  cases d; cases e; cases h; rfl

instance [DecidableEq α] : DecidableEq (Dict α) := fun d e =>
  if h : d.entries = e.entries then isTrue (ext h) else isFalse fun he => h (he ▸ rfl)

@[simp, grind =] theorem get?_insert_self (d : Dict α) (k : String) (v : α) :
    (d.insert k v).get? k = some v :=
  Entries.get?_insert_self

@[simp, grind =] theorem get?_insert_ne {d : Dict α} {k k' : String} {v : α} (h : k' ≠ k) :
    (d.insert k v).get? k' = d.get? k' :=
  Entries.get?_insert_ne h

@[simp, grind =] theorem get?_filter (p : String → α → Bool) (d : Dict α) (k : String) :
    (d.filter p).get? k = (d.get? k).filter (p k) :=
  Entries.get?_filter d.sorted p k

@[simp, grind =] theorem get?_erase (d : Dict α) (k k' : String) :
    (d.erase k).get? k' = if k' = k then none else d.get? k' := by
  rw [erase, get?_filter]
  split
  · next h => cases d.get? k' <;> simp [h]
  · next h => cases d.get? k' <;> simp [h]

theorem mem_keys_iff {d : Dict α} {k : String} : k ∈ d.keys ↔ (d.get? k).isSome = true :=
  Entries.mem_keys_iff

theorem mem_keys_ofList {ps : List (String × α)} {k : String} :
    k ∈ (ofList ps).keys ↔ k ∈ ps.map (·.1) :=
  Entries.mem_keys_ofPairs

theorem keys_sorted (d : Dict α) : d.keys.Pairwise (· < ·) :=
  List.pairwise_map.2 d.sorted

theorem keys_nodup (d : Dict α) : d.keys.Nodup := by
  apply d.keys_sorted.imp
  rintro k k' hlt rfl
  exact String.lt_irrefl k hlt

@[simp, grind =] theorem get?_map (f : α → β) (d : Dict α) (k : String) :
    (d.map f).get? k = (d.get? k).map f :=
  Entries.get?_map f k d.entries

@[simp, grind =] theorem get?_merge (d winner : Dict α) (k : String) :
    (d.merge winner).get? k = (winner.get? k).or (d.get? k) := by
  obtain ⟨es, hs⟩ := winner
  change (es.foldl (fun d e => d.insert e.1 e.2) d).get? k = (Entries.get? k es).or (d.get? k)
  induction es generalizing d with
  | nil => rfl
  | cons e es ih =>
    obtain ⟨k', v⟩ := e
    obtain ⟨hlt, hrest⟩ := List.pairwise_cons.1 hs
    rw [List.foldl_cons, ih _ hrest, Entries.get?]
    split
    · next hk =>
      -- No later entry has this key, so the one just put in is found.
      subst hk
      rw [Entries.get?_eq_none_of_lt hlt, get?_insert_self]
      rfl
    · next hk => grind

theorem ofList_map_entries (f : α → β) (d : Dict α) :
    ofList (d.entries.map fun e => (e.1, f e.2)) = d.map f :=
  ext (Entries.ofPairs_of_sorted (d.map f).sorted)

end Dict
end FaultInjection
