import FaultInjection.Decimal.Shortest

namespace FaultInjection.Decimal

/-- `positional s` holds if a number whose leading digit has weight `10 ^ s` is written without
an exponent. -/
structure Layout where
  positional : Int → Bool
  pointZero : Bool
  plusExponent : Bool
  tie : Tie

def plain : Layout := ⟨fun _ => true, false, false, .away⟩

def detailed : Layout := ⟨fun s => -4 ≤ s && s < 16, true, false, .away⟩

def compact : Layout := ⟨fun s => -5 ≤ s && s < 16, true, true, .even⟩

private def zeros (n : Nat) : String :=
  String.ofList (List.replicate n '0')

namespace Layout

def positionalText (l : Layout) (digits : List Char) (s : Int) : String :=
  if s < 0 then "0." ++ zeros (-s - 1).toNat ++ String.ofList digits
  else
    let whole := s.toNat + 1
    if digits.length ≤ whole then
      String.ofList digits ++ zeros (whole - digits.length) ++ if l.pointZero then ".0" else ""
    else String.ofList (digits.take whole) ++ "." ++ String.ofList (digits.drop whole)

def exponentText (l : Layout) (digits : List Char) (s : Int) : String :=
  let fraction := match digits.drop 1 with
    | [] => ""
    | ds => "." ++ String.ofList ds
  let plus := if l.plusExponent && 0 ≤ s then "+" else ""
  String.ofList (digits.take 1) ++ fraction ++ "e" ++ plus ++ toString s

def text (l : Layout) (x : Float) : String :=
  match Binary64.ofFloat x with
  | .nan => "NaN"
  | .infinite negative => if negative then "-inf" else "inf"
  | .finite negative m q =>
    let sign := if negative then "-" else ""
    if m = 0 then sign ++ if l.pointZero then "0.0" else "0"
    else
      let d := shortest l.tie m q
      let digits := Nat.toDigits 10 d.digits
      let s := d.exponent + digits.length - 1
      sign ++ if l.positional s then l.positionalText digits s else l.exponentText digits s

theorem toList_zeros (n : Nat) : (zeros n).toList = List.replicate n '0' :=
  String.toList_ofList

section

variable {l : Layout} {digits : List Char} {s : Int}

theorem positionalText_of_neg (hs : s < 0) : (l.positionalText digits s).toList =
    '0' :: '.' :: (List.replicate (-s - 1).toNat '0' ++ digits) := by
  simp [positionalText, hs, toList_zeros]

theorem positionalText_of_whole (hs : 0 ≤ s) (hl : digits.length ≤ s.toNat + 1) :
    (l.positionalText digits s).toList =
      digits ++ List.replicate (s.toNat + 1 - digits.length) '0' ++
        if l.pointZero then ['.', '0'] else [] := by
  unfold positionalText
  rw [if_neg (Int.not_lt.2 hs), if_pos hl, String.toList_append, String.toList_append,
    String.toList_ofList, toList_zeros]
  cases l.pointZero <;> rfl

theorem positionalText_of_fraction (hs : 0 ≤ s) (hl : s.toNat + 1 < digits.length) :
    (l.positionalText digits s).toList =
      digits.take (s.toNat + 1) ++ '.' :: digits.drop (s.toNat + 1) := by
  simp [positionalText, Int.not_lt.2 hs, Nat.not_le.2 hl]

theorem mem_positionalText {c : Char} (h : c ∈ (l.positionalText digits s).toList) :
    c ∈ digits ∨ c = '0' ∨ c = '.' := by
  rcases Int.lt_or_le s 0 with hs | hs
  · rw [positionalText_of_neg hs] at h
    simp only [List.mem_cons, List.mem_append, List.mem_replicate] at h
    rcases h with h | h | ⟨-, h⟩ | h
    · exact .inr (.inl h)
    · exact .inr (.inr h)
    · exact .inr (.inl h)
    · exact .inl h
  · rcases Nat.lt_or_ge (s.toNat + 1) digits.length with hl | hl
    · rw [positionalText_of_fraction hs hl, List.mem_append, List.mem_cons] at h
      rcases h with h | rfl | h
      · exact .inl (List.mem_of_mem_take h)
      · exact .inr (.inr rfl)
      · exact .inl (List.mem_of_mem_drop h)
    · rw [positionalText_of_whole hs hl, List.mem_append, List.mem_append] at h
      rcases h with (h | h) | h
      · exact .inl h
      · exact .inr (.inl (List.mem_replicate.1 h).2)
      · split at h
        · simp only [List.mem_cons, List.not_mem_nil, or_false] at h
          exact .inr h.symm
        · cases h

theorem toList_positionalText (hdot : '.' ∉ (l.positionalText digits s).toList) :
    0 ≤ s ∧ digits.length ≤ s.toNat + 1 ∧ (l.positionalText digits s).toList =
      digits ++ List.replicate (s.toNat + 1 - digits.length) '0' := by
  rcases Int.lt_or_le s 0 with hs | hs
  · rw [positionalText_of_neg hs] at hdot
    simp at hdot
  · rcases Nat.lt_or_ge (s.toNat + 1) digits.length with hl | hl
    · rw [positionalText_of_fraction hs hl] at hdot
      simp at hdot
    · rw [positionalText_of_whole hs hl] at hdot
      refine ⟨hs, hl, ?_⟩
      rw [positionalText_of_whole hs hl]
      cases hzero : l.pointZero with
      | true => simp [hzero] at hdot
      | false => exact List.append_nil _

end

end Layout
end FaultInjection.Decimal
