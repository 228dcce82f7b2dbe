namespace FaultInjection.Text

def byteSize : List Char → Nat
  | [] => 0
  | c :: s => c.utf8Size + byteSize s

def dropBytes? : Nat → List Char → Option (List Char)
  | 0, s => some s
  | _ + 1, [] => none
  | n + 1, c :: s => if c.utf8Size ≤ n + 1 then dropBytes? (n + 1 - c.utf8Size) s else none

def takeBytes? : Nat → List Char → Option (List Char)
  | 0, _ => some []
  | _ + 1, [] => none
  | n + 1, c :: s =>
    if c.utf8Size ≤ n + 1 then (takeBytes? (n + 1 - c.utf8Size) s).map (c :: ·) else none

def eqAsciiCase (s t : List Char) : Bool :=
  s.map Char.toLower == t.map Char.toLower

theorem dropBytes?_byteSize (s t : List Char) : dropBytes? (byteSize s) (s ++ t) = some t := by
  induction s with
  | nil => cases t <;> rfl
  | cons c s ih =>
    have hc : 0 < c.utf8Size := Char.utf8Size_pos c
    obtain ⟨n, hn⟩ : ∃ n, byteSize (c :: s) = n + 1 :=
      ⟨byteSize (c :: s) - 1, by simp [byteSize]; omega⟩
    have hs : n + 1 = c.utf8Size + byteSize s := by rw [← hn]; simp [byteSize]
    rw [hn, List.cons_append, dropBytes?, if_pos (by omega), hs, Nat.add_sub_cancel_left, ih]

theorem dropBytes?_eq_some_iff {n : Nat} {s t : List Char} :
    dropBytes? n s = some t ↔ ∃ front, s = front ++ t ∧ byteSize front = n := by
  constructor
  · intro h
    induction s generalizing n with
    | nil =>
      cases n with
      | zero => exact ⟨[], Option.some.inj h, rfl⟩
      | succ n => cases h
    | cons c s ih =>
      cases n with
      | zero => exact ⟨[], Option.some.inj h, rfl⟩
      | succ n =>
        rw [dropBytes?] at h
        by_cases hc : c.utf8Size ≤ n + 1
        · rw [if_pos hc] at h
          obtain ⟨front, rfl, hsize⟩ := ih h
          refine ⟨c :: front, rfl, ?_⟩
          rw [byteSize, hsize]
          omega
        · rw [if_neg hc] at h
          cases h
  · rintro ⟨front, rfl, rfl⟩
    exact dropBytes?_byteSize front t

@[simp] theorem byteSize_append (s t : List Char) :
    byteSize (s ++ t) = byteSize s + byteSize t := by
  induction s with
  | nil => simp [byteSize]
  | cons c s ih => simp [byteSize, ih]; omega

theorem dropBytes?_inside {front back : List Char} {c : Char} {n : Nat}
    (hlow : byteSize front < n) (hhigh : n < byteSize front + c.utf8Size) :
    dropBytes? n (front ++ c :: back) = none := by
  apply Option.eq_none_iff_forall_ne_some.2
  intro rest hcut
  obtain ⟨cut, heq, rfl⟩ := dropBytes?_eq_some_iff.1 hcut
  rcases List.append_eq_append_iff.1 heq with ⟨mid, rfl, hmid⟩ | ⟨mid, rfl, -⟩
  · rw [byteSize_append] at hlow hhigh
    cases mid with
    | nil =>
      rw [byteSize] at hlow
      omega
    | cons d mid =>
      obtain rfl : c = d := (List.cons.inj hmid).1
      rw [byteSize] at hhigh
      omega
  · rw [byteSize_append] at hlow
    omega

theorem byteSize_of_ascii {s : List Char} (h : ∀ c ∈ s, c.toNat < 128) :
    byteSize s = s.length := by
  induction s with
  | nil => rfl
  | cons c s ih =>
    obtain ⟨hc, hs⟩ := List.forall_mem_cons.1 h
    have hone : c.utf8Size = 1 :=
      Char.utf8Size_eq_one_iff.2 (UInt32.le_iff_toNat_le.2 (Nat.le_of_lt_succ hc))
    rw [byteSize, ih hs, hone, List.length_cons, Nat.add_comm]

theorem byteSize_toList (s : String) : byteSize s.toList = s.utf8ByteSize := by
  have h (cs : List Char) : (String.ofList cs).utf8ByteSize = byteSize cs := by
    induction cs with
    | nil => rfl
    | cons c cs ih =>
      rw [String.ofList_cons, String.utf8ByteSize_append, String.utf8ByteSize_singleton, ih,
        byteSize]
  rw [← h, String.ofList_toList]

end FaultInjection.Text
