namespace FaultInjection.Text

def isSpace (c : Char) : Bool :=
  let n := c.toNat
  (9 ≤ n && n ≤ 13) || n == 0x20 || n == 0x85 || n == 0xA0 || n == 0x1680 ||
    (0x2000 ≤ n && n ≤ 0x200A) || n == 0x2028 || n == 0x2029 || n == 0x202F ||
    n == 0x205F || n == 0x3000

def trimStart (s : List Char) : List Char :=
  s.dropWhile isSpace

def trimEnd (s : List Char) : List Char :=
  (s.reverse.dropWhile isSpace).reverse

def trimChars (s : List Char) : List Char :=
  trimEnd (trimStart s)

def trim (s : String) : String :=
  String.ofList (trimChars s.toList)

def isBlank (s : String) : Bool :=
  s.toList.all isSpace

theorem spaces_takeWhile (s : List Char) : ∀ c ∈ s.takeWhile isSpace, isSpace c = true :=
  List.all_eq_true.1 List.all_takeWhile

theorem eq_spaces_append_trimChars (s : List Char) :
    ∃ before after, s = before ++ (trimChars s ++ after) ∧
      (∀ c ∈ before, isSpace c = true) ∧ ∀ c ∈ after, isSpace c = true := by
  refine ⟨s.takeWhile isSpace, ((trimStart s).reverse.takeWhile isSpace).reverse, ?_,
    spaces_takeWhile s, fun c hc => spaces_takeWhile _ c (List.mem_reverse.1 hc)⟩
  have hend : trimChars s ++ ((trimStart s).reverse.takeWhile isSpace).reverse = trimStart s := by
    rw [trimChars, trimEnd, ← List.reverse_append, List.takeWhile_append_dropWhile,
      List.reverse_reverse]
  rw [hend, trimStart, List.takeWhile_append_dropWhile]

theorem trimStart_eq_nil {s : List Char} (h : ∀ c ∈ s, isSpace c = true) : trimStart s = [] := by
  induction s with
  | nil => rfl
  | cons c s ih =>
    rw [trimStart, List.dropWhile_cons_of_pos (h c List.mem_cons_self)]
    exact ih fun d hd => h d (List.mem_cons_of_mem c hd)

theorem trimStart_append_cons {c : Char} (hc : isSpace c = false) (a b : List Char) :
    trimStart (a ++ c :: b) = trimStart a ++ c :: b := by
  induction a with
  | nil => simp [trimStart, hc]
  | cons d a ih =>
    by_cases hd : isSpace d = true
    · simpa [trimStart, hd] using ih
    · simp [trimStart, hd]

theorem trimEnd_append_cons {c : Char} (hc : isSpace c = false) (a b : List Char) :
    trimEnd (a ++ c :: b) = a ++ c :: trimEnd b := by
  have h := trimStart_append_cons hc b.reverse a.reverse
  rw [trimStart, trimStart] at h
  simp [trimEnd, h]

theorem trimChars_append_cons {c : Char} (hc : isSpace c = false) (a b : List Char) :
    trimChars (a ++ c :: b) = trimStart a ++ c :: trimEnd b := by
  rw [trimChars, trimStart_append_cons hc, trimEnd_append_cons hc]

theorem trimStart_trimStart (s : List Char) : trimStart (trimStart s) = trimStart s := by
  induction s with
  | nil => rfl
  | cons c s ih =>
    by_cases hc : isSpace c = true
    · simpa [trimStart, hc] using ih
    · simp [trimStart, hc]

theorem trimEnd_trimEnd (s : List Char) : trimEnd (trimEnd s) = trimEnd s := by
  have h := trimStart_trimStart s.reverse
  rw [trimStart, trimStart] at h
  simp [trimEnd, h]

theorem spaces_or_cut (s : List Char) :
    (∀ c ∈ s, isSpace c = true) ∨ ∃ a c b, s = a ++ c :: b ∧ isSpace c = false := by
  by_cases h : ∀ c ∈ s, isSpace c = true
  · exact .inl h
  · simp only [Classical.not_forall, Bool.not_eq_true] at h
    obtain ⟨c, hc, hspace⟩ := h
    obtain ⟨a, b, rfl⟩ := List.append_of_mem hc
    exact .inr ⟨a, c, b, rfl, hspace⟩

theorem trimChars_trimStart (s : List Char) : trimChars (trimStart s) = trimChars s := by
  rw [trimChars, trimStart_trimStart, trimChars]

theorem trimChars_trimEnd (s : List Char) : trimChars (trimEnd s) = trimChars s := by
  rcases spaces_or_cut s with h | ⟨a, c, b, rfl, hc⟩
  · have hend : trimEnd s = [] := by
      have hrev := trimStart_eq_nil (s := s.reverse) fun c hc => h c (List.mem_reverse.1 hc)
      rw [trimStart] at hrev
      rw [trimEnd, hrev]
      rfl
    rw [hend, trimChars, trimChars, trimStart_eq_nil h]
    rfl
  · rw [trimEnd_append_cons hc, trimChars_append_cons hc, trimChars_append_cons hc,
      trimEnd_trimEnd]

theorem trimChars_eq_nil_iff {s : List Char} : trimChars s = [] ↔ ∀ c ∈ s, isSpace c = true := by
  constructor
  · intro h
    rcases spaces_or_cut s with hs | ⟨a, c, b, rfl, hc⟩
    · exact hs
    · rw [trimChars_append_cons hc] at h
      exact absurd h (List.append_ne_nil_of_right_ne_nil _ (List.cons_ne_nil _ _))
  · intro h
    rw [trimChars, trimStart_eq_nil h]
    rfl

theorem toList_trim (s : String) : (trim s).toList = trimChars s.toList :=
  String.toList_ofList

theorem trim_eq_empty_iff (s : String) : trim s = "" ↔ isBlank s = true := by
  rw [← String.toList_eq_nil_iff, toList_trim, trimChars_eq_nil_iff, isBlank, List.all_eq_true]

theorem trim_of_no_spaces {s : String} (h : ∀ c ∈ s.toList, isSpace c = false) : trim s = s := by
  have hnil {cs : List Char} (hcs : ∀ c ∈ cs, isSpace c = true) (hs : ∀ c ∈ cs, c ∈ s.toList) :
      cs = [] := by
    apply List.eq_nil_iff_forall_not_mem.2
    intro c hc
    have hspace := hcs c hc
    rw [h c (hs c hc)] at hspace
    cases hspace
  obtain ⟨before, after, hs, hbefore, hafter⟩ := eq_spaces_append_trimChars s.toList
  apply String.toList_inj.1
  rw [toList_trim]
  have hb : before = [] := hnil hbefore fun c hc => hs ▸ List.mem_append_left _ hc
  have ha : after = [] :=
    hnil hafter fun c hc => hs ▸ List.mem_append_right _ (List.mem_append_right _ hc)
  rw [ha, hb, List.nil_append, List.append_nil] at hs
  exact hs.symm

end FaultInjection.Text
