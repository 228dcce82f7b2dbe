import FaultInjection.Pattern.Matcher
import Mathlib.Data.Finset.Card

namespace FaultInjection.Pattern

def InOrder : Pattern → Prop
  | .empty | .one _ | .anchor _ => True
  | .seq p q | .alt p q => p.InOrder ∧ q.InOrder
  | .rep p least most => p.InOrder ∧ ∀ m, most = some m → least ≤ m
  | .group p => p.InOrder

def Chain (R : Nat → Nat → Prop) : Nat → Nat → Nat → Prop
  | 0, i, j => i = j
  | n + 1, i, j => ∃ k, R i k ∧ Chain R n k j

theorem Chain.append {R : Nat → Nat → Prop} {m n i j k : Nat} (h : Chain R m i j)
    (hk : Chain R n j k) : Chain R (m + n) i k := by
  induction m generalizing i with
  | zero =>
    obtain rfl : i = j := h
    rwa [Nat.zero_add]
  | succ m ih =>
    obtain ⟨l, hl, hrest⟩ := h
    rw [Nat.succ_add]
    exact ⟨l, hl, ih hrest⟩

theorem Chain.split {R : Nat → Nat → Prop} {m n i k : Nat} (h : Chain R (m + n) i k) :
    ∃ j, Chain R m i j ∧ Chain R n j k := by
  induction m generalizing i with
  | zero =>
    rw [Nat.zero_add] at h
    exact ⟨i, rfl, h⟩
  | succ m ih =>
    rw [Nat.succ_add] at h
    obtain ⟨l, hl, hrest⟩ := h
    obtain ⟨j, hj, hk⟩ := ih hrest
    exact ⟨j, ⟨l, hl, hj⟩, hk⟩

theorem Chain.le {R : Nat → Nat → Prop} {size n i j : Nat} (hR : ∀ k l, R k l → l ≤ size)
    (h : Chain R n i j) (hi : i ≤ size) : j ≤ size := by
  induction n generalizing i with
  | zero =>
    obtain rfl : i = j := h
    exact hi
  | succ n ih =>
    obtain ⟨k, hik, hrest⟩ := h
    exact ih hrest (hR i k hik)

namespace Positions

structure Computes (f : List Nat → List Nat) (R : Nat → Nat → Prop) (size : Nat) : Prop where
  mem : ∀ xs, (∀ i ∈ xs, i ≤ size) → ∀ j, j ∈ f xs ↔ ∃ i ∈ xs, R i j
  le : ∀ i j, R i j → j ≤ size

variable {f : List Nat → List Nat} {R : Nat → Nat → Prop} {size : Nat}

theorem mem_times (hf : Computes f R size) {n : Nat} {xs : List Nat} (hxs : ∀ i ∈ xs, i ≤ size)
    {j : Nat} : j ∈ times f n xs ↔ ∃ i ∈ xs, Chain R n i j := by
  induction n generalizing xs with
  | zero => simp [times, Chain]
  | succ n ih =>
    have hnext : ∀ k ∈ f xs, k ≤ size := fun k hk => by
      obtain ⟨i, _, hik⟩ := (hf.mem xs hxs k).1 hk
      exact hf.le i k hik
    cases xs with
    | nil => simp [times]
    | cons x xs =>
      rw [times, List.isEmpty_cons, if_neg Bool.false_ne_true, ih hnext]
      constructor
      · rintro ⟨k, hk, hj⟩
        obtain ⟨i, hi, hik⟩ := (hf.mem _ hxs k).1 hk
        exact ⟨i, hi, k, hik, hj⟩
      · rintro ⟨i, hi, k, hik, hj⟩
        exact ⟨k, (hf.mem _ hxs k).2 ⟨i, hi, hik⟩, hj⟩

structure Search (R : Nat → Nat → Prop) (size : Nat) (seen fresh : List Nat) : Prop where
  le : ∀ i ∈ seen, i ≤ size
  subset : ∀ i ∈ fresh, i ∈ seen
  old : ∀ i ∈ seen, i ∉ fresh → ∀ j, R i j → j ∈ seen

theorem Search.follow {seen fresh : List Nat} (h : Search R size seen fresh)
    (hf : Computes f R size) {i j : Nat} (hi : i ∈ seen) (hij : R i j) :
    j ∈ seen ++ minus (f fresh) seen := by
  rw [List.mem_append, mem_minus]
  by_cases hj : j ∈ seen
  · exact .inl hj
  · by_cases hfresh : i ∈ fresh
    · have hle : ∀ i ∈ fresh, i ≤ size := fun i hi => h.le i (h.subset i hi)
      exact .inr ⟨(hf.mem fresh hle j).2 ⟨i, hfresh, hij⟩, hj⟩
    · exact absurd (h.old i hi hfresh j hij) hj

theorem Search.next {seen fresh : List Nat} (h : Search R size seen fresh)
    (hf : Computes f R size) :
    Search R size (seen ++ minus (f fresh) seen) (minus (f fresh) seen) where
  le i hi := by
    rcases List.mem_append.1 hi with hi | hi
    · exact h.le i hi
    · have hle : ∀ i ∈ fresh, i ≤ size := fun i hi => h.le i (h.subset i hi)
      obtain ⟨k, -, hk⟩ := (hf.mem fresh hle i).1 (mem_minus.1 hi).1
      exact hf.le k i hk
  subset i hi := List.mem_append_right seen hi
  old i hi hn j hij := by
    rcases List.mem_append.1 hi with hi | hi
    · exact h.follow hf hi hij
    · exact absurd hi hn

theorem upTo_nil (f : List Nat → List Nat) (n : Nat) (seen : List Nat) :
    upTo f n seen [] = seen := by
  cases n <;> rfl

theorem upTo_succ {f : List Nat → List Nat} {fresh : List Nat} (h : fresh ≠ []) (n : Nat)
    (seen : List Nat) : upTo f (n + 1) seen fresh =
      upTo f n (seen ++ minus (f fresh) seen) (minus (f fresh) seen) := by
  rw [upTo, if_neg fun he => h (List.isEmpty_iff.1 he)]

theorem mem_upTo {seen fresh : List Nat} (h : Search R size seen fresh) (hf : Computes f R size)
    {n j : Nat} : j ∈ upTo f n seen fresh ↔ ∃ i ∈ seen, ∃ m ≤ n, Chain R m i j := by
  induction n generalizing seen fresh with
  | zero => simp [upTo, Chain]
  | succ n ih =>
    have hclosed : fresh = [] → ∀ m i, i ∈ seen → Chain R m i j → j ∈ seen := by
      intro hfresh m
      induction m with
      | zero => exact fun i hi hc => hc ▸ hi
      | succ m ihm =>
        rintro i hi ⟨k, hik, hc⟩
        exact ihm k (h.old i hi (hfresh ▸ List.not_mem_nil) k hik) hc
    by_cases hempty : fresh = []
    · rw [hempty, upTo_nil]
      constructor
      · exact fun hj => ⟨j, hj, 0, Nat.zero_le _, rfl⟩
      · rintro ⟨i, hi, m, -, hc⟩
        exact hclosed hempty m i hi hc
    · rw [upTo_succ hempty, ih (h.next hf)]
      constructor
      · rintro ⟨i, hi, m, hm, hc⟩
        rcases List.mem_append.1 hi with hi | hi
        · exact ⟨i, hi, m, by omega, hc⟩
        · have hle : ∀ i ∈ fresh, i ≤ size := fun i hi => h.le i (h.subset i hi)
          obtain ⟨k, hk, hki⟩ := (hf.mem fresh hle i).1 (mem_minus.1 hi).1
          exact ⟨k, h.subset k hk, m + 1, by omega, i, hki, hc⟩
      · rintro ⟨i, hi, m, hm, hc⟩
        cases m with
        | zero =>
          obtain rfl : i = j := hc
          exact ⟨i, List.mem_append_left _ hi, 0, Nat.zero_le n, rfl⟩
        | succ m =>
          obtain ⟨k, hik, hc⟩ := hc
          exact ⟨k, h.follow hf hi hik, m, by omega, hc⟩

def missing (size : Nat) (seen : List Nat) : Nat :=
  (Finset.range (size + 1) \ seen.toFinset).card

theorem missing_append_lt {seen next : List Nat} {i : Nat} (hi : i ∈ next) (hn : i ∉ seen)
    (hle : i ≤ size) : missing size (seen ++ next) < missing size seen := by
  apply Finset.card_lt_card
  refine Finset.ssubset_iff_subset_ne.2 ⟨?_, fun he => ?_⟩
  · intro k hk
    simp only [Finset.mem_sdiff, List.mem_toFinset, List.mem_append, not_or] at hk ⊢
    exact ⟨hk.1, hk.2.1⟩
  · have hmem : i ∈ Finset.range (size + 1) \ seen.toFinset := by
      simp only [Finset.mem_sdiff, Finset.mem_range, List.mem_toFinset]
      exact ⟨by omega, hn⟩
    rw [← he] at hmem
    simp only [Finset.mem_sdiff, List.mem_toFinset, List.mem_append, not_or] at hmem
    exact hmem.2.2 hi

theorem mem_of_missing_zero {seen : List Nat} (h : missing size seen = 0) {i : Nat}
    (hi : i ≤ size) : i ∈ seen := by
  by_contra hn
  have hmem : i ∈ Finset.range (size + 1) \ seen.toFinset := by
    simp only [Finset.mem_sdiff, Finset.mem_range, List.mem_toFinset]
    exact ⟨by omega, hn⟩
  rw [Finset.card_eq_zero.1 h] at hmem
  exact Finset.notMem_empty i hmem

theorem upTo_closed {seen fresh : List Nat} (h : Search R size seen fresh)
    (hf : Computes f R size) {n : Nat} (hn : missing size seen ≤ n) {i j : Nat}
    (hi : i ∈ upTo f n seen fresh) (hij : R i j) : j ∈ upTo f n seen fresh := by
  induction n generalizing seen fresh with
  | zero => exact mem_of_missing_zero (Nat.le_zero.1 hn) (hf.le i j hij)
  | succ n ih =>
    by_cases hempty : fresh = []
    · rw [hempty, upTo_nil] at hi ⊢
      exact h.old i hi (hempty ▸ List.not_mem_nil) j hij
    · rw [upTo_succ hempty] at hi ⊢
      by_cases hnext : minus (f fresh) seen = []
      · rw [hnext, upTo_nil, List.append_nil] at hi ⊢
        have hj := h.follow hf hi hij
        rwa [hnext, List.append_nil] at hj
      · obtain ⟨k, hk⟩ := List.exists_mem_of_ne_nil _ hnext
        have hlt := missing_append_lt hk (mem_minus.1 hk).2
          ((h.next hf).le k (List.mem_append_right seen hk))
        exact ih (h.next hf) (by omega) hi

theorem mem_upTo_of_missing {seen fresh : List Nat} (h : Search R size seen fresh)
    (hf : Computes f R size) {n j : Nat} (hn : missing size seen ≤ n) :
    j ∈ upTo f n seen fresh ↔ ∃ i ∈ seen, ∃ m, Chain R m i j := by
  constructor
  · intro hj
    obtain ⟨i, hi, m, -, hc⟩ := (mem_upTo h hf).1 hj
    exact ⟨i, hi, m, hc⟩
  · rintro ⟨i, hi, m, hc⟩
    have hstart : i ∈ upTo f n seen fresh := (mem_upTo h hf).2 ⟨i, hi, 0, Nat.zero_le n, rfl⟩
    clear hi
    induction m generalizing i with
    | zero => exact hc ▸ hstart
    | succ m ih =>
      obtain ⟨k, hik, hc⟩ := hc
      exact ih k hc (upTo_closed h hf hn hstart hik)

theorem missing_le (size : Nat) (seen : List Nat) : missing size seen ≤ size + 1 := by
  have hle := Finset.card_le_card (Finset.sdiff_subset (s := Finset.range (size + 1))
    (t := seen.toFinset))
  rwa [Finset.card_range] at hle

theorem search_start {xs : List Nat} (h : ∀ i ∈ xs, i ≤ size) : Search R size xs xs where
  le := h
  subset _ hi := hi
  old _ hi hn := absurd hi hn

end Positions

open Positions

variable {text : List Char}

theorem Matches.le {p : Pattern} {i j : Nat} (h : Matches text p i j) :
    i ≤ text.length ∧ j ≤ text.length := by
  induction h with
  | empty h => exact ⟨h, h⟩
  | one h _ =>
    obtain ⟨hlt, -⟩ := List.getElem?_eq_some_iff.1 h
    exact ⟨by omega, hlt⟩
  | anchor h _ => exact ⟨h, h⟩
  | seq _ _ ihp ihq => exact ⟨ihp.1, ihq.2⟩
  | altLeft _ ih => exact ih
  | altRight _ ih => exact ih
  | repNone h => exact ⟨h, h⟩
  | repMore _ _ _ ihp ihr => exact ⟨ihp.1, ihr.2⟩
  | group _ ih => exact ih

theorem matches_rep_iff {p : Pattern} {least : Nat} {most : Option Nat} {i j : Nat} :
    Matches text (.rep p least most) i j ↔ i ≤ text.length ∧
      ∃ n, least ≤ n ∧ (∀ m, most = some m → n ≤ m) ∧ Chain (Matches text p) n i j := by
  constructor
  · intro h
    refine ⟨h.le.1, ?_⟩
    generalize hq : Pattern.rep p least most = q at h
    induction h generalizing least most with
    | repNone _ =>
      cases hq
      exact ⟨0, Nat.le_refl 0, fun m _ => Nat.zero_le m, rfl⟩
    | repMore hm hp _ _ ih =>
      cases hq
      obtain ⟨n, hleast, hmost, hc⟩ := ih rfl
      refine ⟨n + 1, by omega, fun m he => ?_, _, hp, hc⟩
      subst he
      have hpos : m ≠ 0 := fun hz => hm (hz ▸ rfl)
      have hle := hmost (m - 1) rfl
      omega
    | _ => cases hq
  · rintro ⟨hi, n, hleast, hmost, hc⟩
    induction n generalizing i least most with
    | zero =>
      obtain rfl : i = j := hc
      obtain rfl := Nat.le_zero.1 hleast
      exact .repNone hi
    | succ n ih =>
      obtain ⟨k, hik, hc⟩ := hc
      refine .repMore ?_ hik (ih hik.le.2 (by omega) ?_ hc)
      · rintro rfl
        exact absurd (hmost 0 rfl) (by omega)
      · intro m hm
        obtain ⟨m', rfl, rfl⟩ := Option.map_eq_some_iff.1 hm
        have hle := hmost m' rfl
        omega

theorem mem_ends_rep {p : Pattern}
    (hf : Computes (p.ends text.toArray) (Matches text p) text.length)
    {least : Nat} {most : Option Nat} (hm : ∀ m, most = some m → least ≤ m) {is : List Nat}
    (his : ∀ i ∈ is, i ≤ text.length) {j : Nat} :
    j ∈ (rep p least most).ends text.toArray is ↔ ∃ i ∈ is, Matches text (rep p least most) i j := by
  have hstart : ∀ k ∈ times (p.ends text.toArray) least is, k ≤ text.length := by
    intro k hk
    obtain ⟨i, hi, hc⟩ := (mem_times hf his).1 hk
    exact hc.le hf.le (his i hi)
  have hsearch := search_start (R := Matches text p) hstart
  simp only [ends]
  constructor
  · intro hj
    obtain ⟨k, hk, m, hmore, hc'⟩ := (mem_upTo hsearch hf).1 hj
    obtain ⟨i, hi, hc⟩ := (mem_times hf his).1 hk
    refine ⟨i, hi, matches_rep_iff.2 ⟨his i hi, least + m, by omega, fun b hb => ?_, hc.append hc'⟩⟩
    subst hb
    have hmore : m ≤ b - least := hmore
    have hle := hm b rfl
    omega
  · rintro ⟨i, hi, hmatch⟩
    obtain ⟨-, n, hleast, hmost, hc⟩ := matches_rep_iff.1 hmatch
    obtain ⟨m, rfl⟩ := Nat.exists_eq_add_of_le hleast
    obtain ⟨k, hc, hc'⟩ := hc.split
    have hk := (mem_times hf his).2 ⟨i, hi, hc⟩
    cases most with
    | none => exact (mem_upTo_of_missing hsearch hf (missing_le _ _)).2 ⟨k, hk, m, hc'⟩
    | some b =>
      have hle := hmost b rfl
      have hmore : m ≤ b - least := by omega
      exact (mem_upTo hsearch hf).2 ⟨k, hk, m, hmore, hc'⟩

theorem mem_ends {p : Pattern} (hp : p.InOrder) {is : List Nat} (his : ∀ i ∈ is, i ≤ text.length)
    {j : Nat} : j ∈ p.ends text.toArray is ↔ ∃ i ∈ is, Matches text p i j := by
  induction p generalizing is j with
  | empty =>
    rw [ends]
    constructor
    · exact fun hj => ⟨j, hj, .empty (his j hj)⟩
    · rintro ⟨i, hi, hm⟩
      cases hm
      exact hi
  | one s =>
    simp only [ends, List.mem_map, List.mem_filter, List.getElem?_toArray]
    constructor
    · rintro ⟨i, ⟨hi, hs⟩, rfl⟩
      obtain ⟨c, hc, hs⟩ := (Option.any_eq_true s.contains text[i]?).1 hs
      exact ⟨i, hi, .one hc hs⟩
    · rintro ⟨i, hi, hm⟩
      cases hm with
      | one hc hs => exact ⟨i, ⟨hi, (Option.any_eq_true s.contains text[i]?).2 ⟨_, hc, hs⟩⟩, rfl⟩
  | anchor a =>
    simp only [ends, List.mem_filter, List.getElem?_toArray]
    constructor
    · rintro ⟨hj, ha⟩
      exact ⟨j, hj, .anchor (his j hj) ha⟩
    · rintro ⟨i, hi, hm⟩
      cases hm with
      | anchor _ ha => exact ⟨hi, ha⟩
  | seq p q ihp ihq =>
    have hmid : ∀ k ∈ p.ends text.toArray is, k ≤ text.length := by
      intro k hk
      obtain ⟨i, -, hm⟩ := (ihp hp.1 his).1 hk
      exact hm.le.2
    rw [ends, ihq hp.2 hmid]
    constructor
    · rintro ⟨k, hk, hq⟩
      obtain ⟨i, hi, hm⟩ := (ihp hp.1 his).1 hk
      exact ⟨i, hi, .seq hm hq⟩
    · rintro ⟨i, hi, hm⟩
      cases hm with
      | seq hm hq => exact ⟨_, (ihp hp.1 his).2 ⟨i, hi, hm⟩, hq⟩
  | alt p q ihp ihq =>
    rw [ends, mem_union, ihp hp.1 his, ihq hp.2 his]
    constructor
    · rintro (⟨i, hi, hm⟩ | ⟨i, hi, hm⟩)
      · exact ⟨i, hi, .altLeft hm⟩
      · exact ⟨i, hi, .altRight hm⟩
    · rintro ⟨i, hi, hm⟩
      cases hm with
      | altLeft hm => exact .inl ⟨i, hi, hm⟩
      | altRight hm => exact .inr ⟨i, hi, hm⟩
  | rep p least most ih =>
    exact mem_ends_rep ⟨fun xs hxs k => ih hp.1 hxs, fun i k hm => hm.le.2⟩ hp.2 his
  | group p ih =>
    rw [ends, ih hp his]
    constructor
    · rintro ⟨i, hi, hm⟩
      exact ⟨i, hi, .group hm⟩
    · rintro ⟨i, hi, hm⟩
      cases hm with
      | group hm => exact ⟨i, hi, hm⟩

theorem isMatch_iff {p : Pattern} (hp : p.InOrder) (text : String) :
    p.isMatch text = true ↔ ∃ i j, Matches text.toList p i j := by
  have hrange : ∀ i ∈ List.range (text.length + 1), i ≤ text.toList.length := by
    intro i hi
    have hlt := List.mem_range.1 hi
    rw [String.length_toList]
    omega
  unfold isMatch
  rw [Bool.not_eq_true', ← Bool.not_eq_true, List.isEmpty_iff]
  constructor
  · intro h
    obtain ⟨j, hj⟩ := List.exists_mem_of_ne_nil _ h
    obtain ⟨i, -, hm⟩ := (mem_ends hp hrange).1 hj
    exact ⟨i, j, hm⟩
  · rintro ⟨i, j, hm⟩
    have hi : i ∈ List.range (text.length + 1) := by
      have hle := hm.le.1
      rw [String.length_toList] at hle
      exact List.mem_range.2 (by omega)
    exact List.ne_nil_of_mem ((mem_ends hp hrange).2 ⟨i, hi, hm⟩)

end FaultInjection.Pattern
