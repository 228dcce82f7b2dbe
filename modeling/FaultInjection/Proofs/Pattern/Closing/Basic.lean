import FaultInjection.Pattern.Reader
import Mathlib.Data.List.TakeDrop
import Mathlib.Data.List.TakeWhile

/-!
Reading in front of the text that closes a group. Readers do not look behind the end of what they
read, except that a comment goes on to the end of its line.
-/
namespace FaultInjection.Regex.Reader

def closing : List Char := [')', '$']

def Closed (cs cs' : List Char) : Prop :=
  cs' = cs ++ closing ∨ cs' = cs

namespace Closed

variable {cs cs' : List Char}

theorem refl (cs : List Char) : Closed cs cs := .inr rfl

theorem nil (h : Closed [] cs') : cs' = closing ∨ cs' = [] := h

theorem cons {c : Char} (h : Closed cs cs') : Closed (c :: cs) (c :: cs') := by
  rcases h with rfl | rfl
  · exact .inl rfl
  · exact .inr rfl

theorem of_cons {c : Char} (h : Closed (c :: cs) cs') : ∃ r', cs' = c :: r' ∧ Closed cs r' := by
  rcases h with rfl | rfl
  · exact ⟨cs ++ closing, rfl, .inl rfl⟩
  · exact ⟨cs, rfl, .inr rfl⟩

theorem of_cons_right {c : Char} (hc : c ≠ ')') (h : Closed cs (c :: cs')) :
    ∃ r, cs = c :: r ∧ Closed r cs' := by
  rcases h with h | h
  · cases cs with
    | nil => exact absurd (List.cons.inj h).1 hc
    | cons d cs =>
      obtain ⟨rfl, rfl⟩ := List.cons.inj h
      exact ⟨cs, rfl, .inl rfl⟩
  · exact ⟨cs', h.symm, .refl cs'⟩

theorem not_cons {c : Char} (hc : c ≠ ')') (h : Closed cs cs') (hne : ∀ r, cs ≠ c :: r)
    (r' : List Char) : cs' ≠ c :: r' := by
  rintro rfl
  obtain ⟨r, rfl, -⟩ := h.of_cons_right hc
  exact hne r rfl

theorem not_cons_cons {c d : Char} (hc : c ≠ ')') (hd : d ≠ ')') (h : Closed cs cs')
    (hne : ∀ r, cs ≠ c :: d :: r) (r' : List Char) : cs' ≠ c :: d :: r' := by
  rintro rfl
  obtain ⟨q, rfl, hq⟩ := h.of_cons_right hc
  exact hq.not_cons hd (fun r hr => hne r (congrArg (c :: ·) hr)) r' rfl

theorem length_le (h : Closed cs cs') : cs.length ≤ cs'.length := by
  rcases h with rfl | rfl
  · rw [List.length_append]
    exact Nat.le_add_right _ _
  · exact Nat.le_refl _

theorem ne_nil (h : Closed cs cs') (hne : cs ≠ []) : cs' ≠ [] := by
  rcases h with rfl | rfl
  · exact List.append_ne_nil_of_left_ne_nil hne closing
  · exact hne

theorem dropWhile {p : Char → Bool} (hp : p ')' = false) (h : Closed cs cs') :
    Closed (cs.dropWhile p) (cs'.dropWhile p) := by
  rcases h with rfl | rfl
  · left
    induction cs with
    | nil => simp [closing, hp]
    | cons c cs ih =>
      by_cases hc : p c
      · rw [List.cons_append, List.dropWhile_cons_of_pos hc, List.dropWhile_cons_of_pos hc, ih]
      · rw [List.cons_append, List.dropWhile_cons_of_neg hc, List.dropWhile_cons_of_neg hc,
          List.cons_append]
  · exact refl _

theorem skipBlanks_append (comment : Bool) (cs : List Char) :
    Closed (skipBlanks comment cs) (skipBlanks comment (cs ++ closing)) := by
  induction cs generalizing comment with
  | nil =>
    cases comment with
    | false => exact .inl (by decide)
    | true => exact .inr (by decide)
  | cons c cs ih =>
    cases comment with
    | true => exact ih _
    | false =>
      simp only [List.cons_append, skipBlanks]
      by_cases hs : Text.isSpace c
      · simpa only [if_pos hs] using ih false
      · by_cases hc : c = '#'
        · simpa only [if_neg hs, if_pos hc] using ih true
        · simp only [if_neg hs, if_neg hc]
          exact .inl rfl

theorem skip (x : Bool) (h : Closed cs cs') : Closed (Reader.skip x cs) (Reader.skip x cs') := by
  cases x with
  | false => exact h
  | true =>
    rcases h with rfl | rfl
    · exact skipBlanks_append false cs
    · exact refl _

end Closed

def Follows {α : Type} (R : α → α → Prop) (o o' : Option α) : Prop :=
  ∀ a, o = some a → ∃ a', o' = some a' ∧ R a a'

def Same {α β : Type} (R : β → β → Prop) (p p' : α × β) : Prop :=
  p.1 = p'.1 ∧ R p.2 p'.2

namespace Follows

variable {α β : Type} {R : α → α → Prop} {S : β → β → Prop}

theorem none {o : Option α} : Follows R none o := fun _ h => nomatch h

theorem some {a a' : α} (h : R a a') : Follows R (some a) (some a') := by
  rintro _ ⟨⟩
  exact ⟨a', rfl, h⟩

theorem refl (o : Option α) : Follows Eq o o := fun a h => ⟨a, h, rfl⟩

theorem guard {o o' : Option α} {c : Prop} [Decidable c] (h : Follows R o o') :
    Follows R (if c then o else .none) (if c then o' else .none) := by
  by_cases hc : c
  · rwa [if_pos hc, if_pos hc]
  · rw [if_neg hc]
    exact .none

theorem bind {o o' : Option α} {k k' : α → Option β} (h : Follows R o o')
    (hk : ∀ a a', R a a' → Follows S (k a) (k' a')) : Follows S (o >>= k) (o' >>= k') := by
  intro b hb
  obtain ⟨a, rfl, hb⟩ := Option.bind_eq_some_iff.1 hb
  obtain ⟨a', rfl, ha⟩ := h a rfl
  exact hk a a' ha b hb

theorem map {o o' : Option α} {f f' : α → β} (h : Follows R o o')
    (hf : ∀ a a', R a a' → S (f a) (f' a')) : Follows S (o.map f) (o'.map f') := by
  intro b hb
  obtain ⟨a, rfl, rfl⟩ := Option.map_eq_some_iff.1 hb
  obtain ⟨a', rfl, ha⟩ := h a rfl
  exact ⟨f' a', rfl, hf a a' ha⟩

end Follows

variable {cs cs' : List Char}

theorem skipMore_follows (x : Bool) (h : Closed cs cs') :
    Follows Closed (skipMore? x cs) (skipMore? x cs') := by
  have hs := h.skip x
  unfold skipMore?
  generalize skip x cs = ds at hs
  generalize skip x cs' = ds' at hs
  cases ds with
  | nil => exact .none
  | cons c ds =>
    obtain ⟨ds', rfl, hr⟩ := hs.of_cons
    exact .some hr.cons

theorem length_skipBlanks_le (comment : Bool) (cs : List Char) :
    (skipBlanks comment cs).length ≤ cs.length := by
  fun_induction skipBlanks comment cs <;> simp only [List.length_cons, List.length_nil] at * <;>
    omega

theorem length_skip_le (x : Bool) (cs : List Char) : (skip x cs).length ≤ cs.length := by
  cases x with
  | false => exact Nat.le_refl _
  | true => exact length_skipBlanks_le false cs

theorem run_nil (x : Bool) (p : Char → Bool) (n : Nat) : run x p n [] = ([], []) := by
  cases n <;> rfl

theorem run_succ_of_pos {x : Bool} {p : Char → Bool} {c : Char} (hc : p c = true) (n : Nat)
    (cs : List Char) : run x p (n + 1) (c :: cs) =
      (c :: (run x p n (skip x cs)).1, (run x p n (skip x cs)).2) := by
  rw [run, if_pos hc]

theorem run_succ_of_neg {x : Bool} {p : Char → Bool} {c : Char} (hc : ¬p c = true) (n : Nat)
    (cs : List Char) : run x p (n + 1) (c :: cs) = ([], c :: cs) := by
  rw [run, if_neg hc]

theorem run_nil_closed {x : Bool} {p : Char → Bool} {m n : Nat} (hn : cs'.length ≤ n)
    (h : Closed [] cs') (hp : p ')' = false ∨ (run x p m []).2 ≠ []) :
    Same Closed (run x p m []) (run x p n cs') := by
  rw [run_nil] at hp ⊢
  rcases h.nil with rfl | rfl
  · have hpos : 0 < n := by
      simp only [closing, List.length_cons] at hn
      omega
    obtain ⟨n, rfl⟩ : ∃ k, n = k + 1 := Nat.exists_eq_succ_of_ne_zero (Nat.ne_of_gt hpos)
    have hp : ¬p ')' = true := by simpa using hp
    rw [closing, run_succ_of_neg hp]
    exact ⟨rfl, .inl rfl⟩
  · rw [run_nil]
    exact ⟨rfl, .refl []⟩

theorem run_closed {x : Bool} {p : Char → Bool} {m n : Nat} (hm : cs.length ≤ m)
    (hn : cs'.length ≤ n) (h : Closed cs cs')
    (hp : p ')' = false ∨ (run x p m cs).2 ≠ []) :
    Same Closed (run x p m cs) (run x p n cs') := by
  induction m generalizing n cs cs' with
  | zero =>
    obtain rfl := List.length_eq_zero_iff.1 (Nat.le_zero.1 hm)
    exact run_nil_closed hn h hp
  | succ m ih =>
    cases cs with
    | nil => exact run_nil_closed hn h hp
    | cons c cs =>
      obtain ⟨cs', rfl, hr⟩ := h.of_cons
      obtain ⟨n, rfl⟩ : ∃ k, n = k + 1 := ⟨n - 1, by simp only [List.length_cons] at hn; omega⟩
      simp only [List.length_cons, Nat.add_le_add_iff_right] at hm hn
      by_cases hc : p c = true
      · rw [run_succ_of_pos hc] at hp
        rw [run_succ_of_pos hc, run_succ_of_pos hc]
        have hrest := ih (Nat.le_trans (length_skip_le x cs) hm)
          (Nat.le_trans (length_skip_le x cs') hn) (hr.skip x) hp
        exact ⟨congrArg (c :: ·) hrest.1, hrest.2⟩
      · rw [run_succ_of_neg hc, run_succ_of_neg hc]
        exact ⟨rfl, h⟩

theorem span_closed {p : Char → Bool} (h : Closed cs cs') (hp : (cs.span p).2 ≠ []) :
    Same Closed (cs.span p) (cs'.span p) := by
  rw [List.span_eq_takeWhile_dropWhile] at hp ⊢
  rw [List.span_eq_takeWhile_dropWhile]
  rcases h with rfl | rfl
  · induction cs with
    | nil => exact absurd rfl hp
    | cons c cs ih =>
      by_cases hc : p c = true
      · simp only [List.dropWhile_cons_of_pos hc] at hp
        obtain ⟨htake, hdrop⟩ := ih hp
        rw [List.cons_append]
        simp only [List.takeWhile_cons_of_pos hc, List.dropWhile_cons_of_pos hc]
        exact ⟨congrArg (c :: ·) htake, hdrop⟩
      · rw [List.cons_append]
        simp only [List.takeWhile_cons_of_neg hc, List.dropWhile_cons_of_neg hc]
        exact ⟨rfl, .inl rfl⟩
  · exact ⟨rfl, .refl _⟩

theorem head?_closed {c : Char} (hc : c ≠ ')') (h : Closed cs cs') :
    cs'.head? = some c ↔ cs.head? = some c := by
  cases cs with
  | nil =>
    rcases h.nil with rfl | rfl
    · simp [closing, hc.symm]
    · rfl
  | cons d cs =>
    obtain ⟨r, rfl, -⟩ := h.of_cons
    rfl

theorem decimal_follows (x : Bool) (h : Closed cs cs') :
    Follows (Same Closed) (decimal? x cs) (decimal? x cs') := by
  have hd := h.dropWhile (p := Text.isSpace) (by decide)
  have hrun := run_closed (x := x) (p := fun c => (Decimal.digit? c).isSome) (Nat.le_refl _)
    (Nat.le_refl _) hd (.inl (by decide))
  obtain ⟨hds, hrest⟩ := hrun
  unfold decimal?
  simp only [hds]
  generalize Decimal.number? _ = o
  cases o with
  | none => exact .none
  | some n => exact .guard (.some ⟨rfl, (hrest.dropWhile (by decide)).skip x⟩)

end FaultInjection.Regex.Reader
