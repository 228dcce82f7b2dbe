import FaultInjection.Pattern.Whole
import FaultInjection.Proofs.Pattern.Bounds

namespace FaultInjection

namespace Regex

theorem parse_eq_some {s : String} {r : Regex} (h : parse? s = some r) :
    Reader.body? (s.toList.length + 1) false [] [] s.toList = some (r, []) := by
  unfold parse? at h
  obtain ⟨⟨q, rest⟩, hbody, h⟩ := Option.bind_eq_some_iff.1 h
  dsimp only at h
  split at h
  · next hrest =>
    cases h
    obtain rfl := List.isEmpty_iff.1 hrest.1
    exact hbody
  · cases h

theorem toList_anchored (s : String) : (Pattern.anchored s).toList =
    '^' :: '(' :: '?' :: ':' :: (s.toList ++ Reader.closing) := by
  rw [Pattern.anchored, String.toList_append, String.toList_append]
  rfl

theorem parse_anchored {s : String} {r R : Regex} (h : parse? s = some r)
    (hR : parse? (Pattern.anchored s) = some R) :
    R = .seq [.mark .caret, .group false none [] r, .mark .dollar] := by
  have hbody := parse_eq_some hR
  rw [toList_anchored] at hbody
  simp only [List.length_cons, List.length_append] at hbody
  exact Reader.body_anchored (parse_eq_some h) (by omega) hbody

theorem makeAll_cons {α : Type} {m : Parts α} {fs fs' fs'' : Flags} {r : Regex} {rs : List Regex}
    {p : α} {ps : List α} (h : r.make m fs = some (p, fs'))
    (hs : makeAll m fs' rs = some (ps, fs'')) :
    makeAll m fs (r :: rs) = some (p :: ps, fs'') :=
  Option.bind_eq_some_iff.2 ⟨(p, fs'), h, Option.bind_eq_some_iff.2 ⟨(ps, fs''), hs, rfl⟩⟩

theorem pattern_anchored {r : Regex} {p : Pattern} (h : r.pattern = some p) :
    (seq [.mark .caret, .group false none [] r, .mark .dollar]).pattern =
      some (.seq (.anchor .textStart) (.seq p (.anchor .textEnd))) := by
  obtain ⟨⟨p, fs⟩, hmake, rfl⟩ := Option.map_eq_some_iff.1 h
  have hgroup : (group false none [] r).make patternParts {} = some (p, {}) :=
    Option.map_eq_some_iff.2 ⟨(p, fs), hmake, rfl⟩
  have hall : makeAll patternParts {} [.mark .caret, .group false none [] r, .mark .dollar] =
      some ([.anchor .textStart, p, .anchor .textEnd], {}) :=
    makeAll_cons rfl (makeAll_cons hgroup (makeAll_cons rfl rfl))
  exact Option.map_eq_some_iff.2 ⟨_, Option.map_eq_some_iff.2 ⟨_, hall, rfl⟩, rfl⟩

end Regex

namespace Pattern

theorem compile_eq_some {s : String} {p : Pattern} (h : compile? s = some p) :
    ∃ r, Regex.parse? s = some r ∧ r.pattern = some p := by
  unfold compile? at h
  obtain ⟨r, hr, h⟩ := Option.bind_eq_some_iff.1 h
  obtain ⟨plan, -, h⟩ := Option.bind_eq_some_iff.1 h
  split at h
  · exact ⟨r, hr, h⟩
  · cases h

theorem compileWhole_eq_some {s : String} {q : Pattern} (h : compileWhole? s = some q) :
    compile? (anchored s) = some q := by
  unfold compileWhole? at h
  split at h
  · cases h
  · exact h

theorem textStart_holds_iff {text : List Char} {i : Nat} (hi : i ≤ text.length) :
    Anchor.textStart.holds (charBefore text i) text[i]? = true ↔ i = 0 := by
  unfold Anchor.holds charBefore
  by_cases h : i = 0
  · simp [h]
  · have hlt : i - 1 < text.length := by omega
    simp [h, List.getElem?_eq_getElem hlt]

theorem textEnd_holds_iff {text : List Char} {i : Nat} (hi : i ≤ text.length) :
    Anchor.textEnd.holds (charBefore text i) text[i]? = true ↔ i = text.length := by
  unfold Anchor.holds
  rw [Option.isNone_iff_eq_none, List.getElem?_eq_none_iff]
  omega

theorem matches_between_anchors {text : List Char} {p : Pattern} {i j : Nat} :
    Matches text (.seq (.anchor .textStart) (.seq p (.anchor .textEnd))) i j ↔
      i = 0 ∧ j = text.length ∧ Matches text p 0 text.length := by
  constructor
  · intro h
    cases h with
    | seq hstart h =>
      cases h with
      | seq hp hend =>
        cases hstart with
        | anchor hi hstart =>
          cases hend with
          | anchor hj hend =>
            obtain rfl := (textStart_holds_iff hi).1 hstart
            obtain rfl := (textEnd_holds_iff hj).1 hend
            exact ⟨rfl, rfl, hp⟩
  · rintro ⟨rfl, rfl, h⟩
    have hstart := (textStart_holds_iff (Nat.zero_le text.length)).2 rfl
    have hend := (textEnd_holds_iff (Nat.le_refl text.length)).2 rfl
    exact .seq (.anchor (Nat.zero_le _) hstart) (.seq h (.anchor (Nat.le_refl _) hend))

/-- A pattern that can be read on its own is compiled to one that matches whole values only. -/
theorem compileWhole_isMatch_iff {s : String} {p q : Pattern} (hp : compile? s = some p)
    (hq : compileWhole? s = some q) (text : String) :
    q.isMatch text = true ↔ Matches text.toList p 0 text.length := by
  obtain ⟨r, hr, hpattern⟩ := compile_eq_some hp
  obtain ⟨R, hR, hwhole⟩ := compile_eq_some (compileWhole_eq_some hq)
  have horder := Regex.pattern_inOrder hR hwhole
  obtain rfl := Regex.parse_anchored hr hR
  rw [Regex.pattern_anchored hpattern] at hwhole
  cases hwhole
  rw [isMatch_iff horder]
  simp only [matches_between_anchors, String.length_toList]
  constructor
  · rintro ⟨i, j, -, -, h⟩
    exact h
  · exact fun h => ⟨0, text.length, rfl, rfl, h⟩

theorem compileWhole_isMatch_alternatives : ∃ p q, compile? "ab|cd" = some p ∧
    compileWhole? "ab|cd" = some q ∧ (q.isMatch "abd" = true ↔ Matches "abd".toList p 0 3) := by
  obtain ⟨p, hp⟩ := Option.isSome_iff_exists.1
    (show (compile? "ab|cd").isSome = true by decide +kernel)
  obtain ⟨q, hq⟩ := Option.isSome_iff_exists.1
    (show (compileWhole? "ab|cd").isSome = true by decide +kernel)
  exact ⟨p, q, hp, hq, compileWhole_isMatch_iff hp hq "abd"⟩

/-- This pattern closes the group between the anchors and opens another, which makes it accepted;
the first anchor then stands in one alternative only, and the last in the other. -/
theorem compileWhole_unbalanced : Regex.parse? "a)|(?:b" = none ∧
    ∃ q, compileWhole? "a)|(?:b" = some q ∧ q.isMatch "ax" = true := by
  have hnone : (Regex.parse? "a)|(?:b").isNone = true := by decide +kernel
  have hsome : (compileWhole? "a)|(?:b").any (·.isMatch "ax") = true := by decide +kernel
  obtain ⟨q, hq, hmatch⟩ := (Option.any_eq_true _ _).1 hsome
  exact ⟨Option.isNone_iff_eq_none.1 hnone, q, hq, hmatch⟩

end Pattern
end FaultInjection
