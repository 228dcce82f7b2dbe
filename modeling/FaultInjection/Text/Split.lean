namespace FaultInjection.Text

def splitAll (sep : Char) : List Char → List (List Char)
  | [] => [[]]
  | c :: s =>
    if c = sep then [] :: splitAll sep s
    else
      match splitAll sep s with
      | [] => [[c]]
      | part :: parts => (c :: part) :: parts

def splitFirst? (sep : Char) : List Char → Option (List Char × List Char)
  | [] => none
  | c :: s =>
    if c = sep then some ([], s) else (splitFirst? sep s).map fun (a, b) => (c :: a, b)

theorem splitAll_ne_nil (sep : Char) (s : List Char) : splitAll sep s ≠ [] := by
  induction s with
  | nil => simp [splitAll]
  | cons c s ih =>
    rw [splitAll]
    split
    · simp
    · split <;> simp

@[simp] theorem splitAll_append (sep : Char) (a b : List Char) :
    splitAll sep (a ++ sep :: b) = splitAll sep a ++ splitAll sep b := by
  induction a with
  | nil => simp [splitAll]
  | cons c a ih =>
    have hne := splitAll_ne_nil sep a
    rw [List.cons_append, splitAll, splitAll, ih]
    cases hs : splitAll sep a with
    | nil => exact absurd hs hne
    | cons part parts => split <;> rfl

theorem splitAll_of_not_mem {sep : Char} {s : List Char} (h : sep ∉ s) : splitAll sep s = [s] := by
  induction s with
  | nil => rfl
  | cons c s ih =>
    simp only [List.mem_cons, not_or] at h
    rw [splitAll, if_neg (Ne.symm h.1), ih h.2]

theorem splitFirst?_append {sep : Char} {a : List Char} (h : sep ∉ a) (b : List Char) :
    splitFirst? sep (a ++ sep :: b) = some (a, b) := by
  induction a with
  | nil => simp [splitFirst?]
  | cons c a ih =>
    simp only [List.mem_cons, not_or] at h
    simp [splitFirst?, Ne.symm h.1, ih h.2]

theorem splitFirst?_eq_none_iff {sep : Char} {s : List Char} :
    splitFirst? sep s = none ↔ sep ∉ s := by
  induction s with
  | nil => simp [splitFirst?]
  | cons c s ih =>
    by_cases hc : c = sep
    · simp [splitFirst?, hc]
    · simp [splitFirst?, hc, Ne.symm hc, ih]

theorem splitFirst?_eq_some_iff {sep : Char} {s a b : List Char} :
    splitFirst? sep s = some (a, b) ↔ s = a ++ sep :: b ∧ sep ∉ a := by
  constructor
  · intro h
    induction s generalizing a with
    | nil => cases h
    | cons c s ih =>
      by_cases hc : c = sep
      · simp only [splitFirst?, hc, if_true, Option.some.injEq, Prod.mk.injEq] at h
        obtain ⟨rfl, rfl⟩ := h
        simp [hc]
      · simp only [splitFirst?, hc, if_false, Option.map_eq_some_iff, Prod.exists,
          Prod.mk.injEq] at h
        obtain ⟨a', b', h', rfl, rfl⟩ := h
        obtain ⟨rfl, hsep⟩ := ih h'
        simp [Ne.symm hc, hsep]
  · rintro ⟨rfl, h⟩
    exact splitFirst?_append h b

theorem exists_cut {sep : Char} {s : String} (h : sep ∈ s.toList) :
    ∃ a b : String, s.toList = a.toList ++ sep :: b.toList ∧ sep ∉ a.toList := by
  cases hs : splitFirst? sep s.toList with
  | none => exact absurd h (splitFirst?_eq_none_iff.1 hs)
  | some ab =>
    obtain ⟨hcut, hsep⟩ := splitFirst?_eq_some_iff.1 hs
    refine ⟨String.ofList ab.1, String.ofList ab.2, ?_⟩
    rw [String.toList_ofList, String.toList_ofList]
    exact ⟨hcut, hsep⟩

theorem append_cons_inj {sep : Char} {a a' b b' : List Char} (h : sep ∉ a) (h' : sep ∉ a') :
    a ++ sep :: b = a' ++ sep :: b' ↔ a = a' ∧ b = b' := by
  constructor
  · intro he
    have hcut := splitFirst?_append h b
    rw [he, splitFirst?_append h' b', Option.some.injEq, Prod.mk.injEq] at hcut
    exact ⟨hcut.1.symm, hcut.2.symm⟩
  · rintro ⟨rfl, rfl⟩
    rfl

end FaultInjection.Text
