import FaultInjection.Proofs.Expression.Verdict
import Mathlib.Logic.Function.Iterate

namespace FaultInjection

namespace Expression

namespace Tree

def reach : List (Tree × Nat) → Nat
  | [] => 0
  | (.node _ ts, d) :: ps => max (d + heights ts) (reach ps)

@[simp] theorem reach_append (ps qs : List (Tree × Nat)) :
    reach (ps ++ qs) = max (reach ps) (reach qs) := by
  induction ps with
  | nil => simp [reach]
  | cons p ps ih =>
    obtain ⟨⟨o, ts⟩, d⟩ := p
    rw [List.cons_append, reach, reach, ih, Nat.max_assoc]

@[simp] theorem reach_reverse (ps : List (Tree × Nat)) : reach ps.reverse = reach ps := by
  induction ps with
  | nil => rfl
  | cons p ps ih =>
    rw [List.reverse_cons, reach_append, ih, Nat.max_comm, ← reach_append, List.singleton_append]

theorem max_reach_map (d : Nat) (ts : List Tree) :
    max d (reach (ts.map fun t => (t, d + 1))) = d + heights ts := by
  induction ts with
  | nil => simp [reach, heights]
  | cons t ts ih =>
    obtain ⟨o, us⟩ := t
    simp only [List.map_cons, reach, heights, height]
    omega

theorem max_reach_oneDeeper (d : Nat) (ts : List Tree) :
    max d (reach (oneDeeper d ts)) = d + heights ts := by
  rw [oneDeeper, List.map_reverse, reach_reverse, max_reach_map]

structure Walk where
  found : Nat
  stack : List (Tree × Nat)

namespace Walk

def start (t : Tree) : Walk := ⟨0, [(t, 1)]⟩

def visit : Walk → Walk
  | ⟨found, []⟩ => ⟨found, []⟩
  | ⟨found, (.node _ ts, d) :: rest⟩ => ⟨max found d, oneDeeper d ts ++ rest⟩

def goal (w : Walk) : Nat := max w.found (reach w.stack)

theorem goal_visit (w : Walk) : w.visit.goal = w.goal := by
  obtain ⟨found, _ | ⟨⟨⟨o, ts⟩, d⟩, rest⟩⟩ := w
  · rfl
  · have hdeeper := max_reach_oneDeeper d ts
    simp only [goal, visit, reach, reach_append]
    omega

theorem pending_visit (w : Walk) : pending w.visit.stack = pending w.stack - 1 := by
  obtain ⟨found, _ | ⟨⟨⟨o, ts⟩, d⟩, rest⟩⟩ := w
  · rfl
  · simp only [visit, pending, pending_append, pending_oneDeeper, size]
    omega

theorem deepest_visit (w : Walk) :
    deepest w.visit.found w.visit.stack = deepest w.found w.stack := by
  obtain ⟨found, _ | ⟨⟨⟨o, ts⟩, d⟩, rest⟩⟩ := w
  · rfl
  · rw [deepest]
    rfl

theorem goal_iterate (w : Walk) (n : Nat) : (visit^[n] w).goal = w.goal := by
  induction n generalizing w with
  | zero => rfl
  | succ n ih => rw [Function.iterate_succ_apply, ih, goal_visit]

theorem pending_iterate (w : Walk) (n : Nat) :
    pending (visit^[n] w).stack = pending w.stack - n := by
  induction n generalizing w with
  | zero => rfl
  | succ n ih =>
    rw [Function.iterate_succ_apply, ih, pending_visit]
    omega

theorem deepest_iterate (w : Walk) (n : Nat) :
    deepest (visit^[n] w).found (visit^[n] w).stack = deepest w.found w.stack := by
  induction n generalizing w with
  | zero => rfl
  | succ n ih => rw [Function.iterate_succ_apply, ih, deepest_visit]

theorem pending_eq_zero_iff {ps : List (Tree × Nat)} : pending ps = 0 ↔ ps = [] := by
  cases ps with
  | nil => exact iff_of_true rfl rfl
  | cons p ps =>
    obtain ⟨⟨o, ts⟩, d⟩ := p
    simp only [pending, size, reduceCtorEq, iff_false]
    omega

theorem iterate_pending (w : Walk) : visit^[pending w.stack] w = ⟨w.goal, []⟩ := by
  have hpending := w.pending_iterate (pending w.stack)
  have hgoal := w.goal_iterate (pending w.stack)
  generalize visit^[pending w.stack] w = v at hpending hgoal ⊢
  obtain ⟨found, stack⟩ := v
  obtain rfl : stack = [] := pending_eq_zero_iff.1 (by simpa using hpending)
  rw [← hgoal]
  simp [goal, reach]

theorem goal_start (t : Tree) : (start t).goal = t.height := by
  obtain ⟨o, ts⟩ := t
  simp only [goal, start, reach, height]
  omega

theorem pending_start (t : Tree) : pending (start t).stack = t.size := rfl

theorem stack_iterate_eq_nil_iff (t : Tree) (n : Nat) :
    (visit^[n] (start t)).stack = [] ↔ t.size ≤ n := by
  rw [← pending_eq_zero_iff, pending_iterate, pending_start]
  omega

theorem iterate_size (t : Tree) : visit^[t.size] (start t) = ⟨t.height, []⟩ := by
  rw [← pending_start, iterate_pending, goal_start]

end Walk

theorem depth_eq_height (t : Tree) : t.depth = t.height := by
  have hend := Walk.deepest_iterate (.start t) t.size
  rw [Walk.iterate_size, deepest] at hend
  exact hend.symm

end Tree

inductive Outcome (s : String) : Except ExpressionError Expression → Prop
  | tooLong (hl : 4096 < s.utf8ByteSize) : Outcome s (.error (.tooLong s.utf8ByteSize 4096))
  | malformed {e : ReadError} (hl : s.utf8ByteSize ≤ 4096) (hp : Tree.parse s = .error e) :
    Outcome s (.error (.malformed e))
  | tooDeep {t : Tree} (hl : s.utf8ByteSize ≤ 4096) (hp : Tree.parse s = .ok t)
    (hh : 64 < t.height) : Outcome s (.error (.tooDeep t.height 64))
  | fits {t : Tree} (hl : s.utf8ByteSize ≤ 4096) (hp : Tree.parse s = .ok t)
    (hh : t.height ≤ 64) : Outcome s (.ok ⟨s, t⟩)

theorem outcome_compile (s : String) : Outcome s (compile s) := by
  simp only [compile, Text.byteSize_toList, Tree.depth_eq_height]
  split
  · next hl => exact .tooLong hl
  · next hl =>
    have hshort : s.utf8ByteSize ≤ 4096 := Nat.not_lt.1 hl
    split
    · next e hp => exact .malformed hshort hp
    · next t hp =>
      split
      · next hh => exact .tooDeep hshort hp hh
      · next hh => exact .fits hshort hp (Nat.not_lt.1 hh)

theorem Outcome.compile_eq {s : String} {r : Except ExpressionError Expression}
    (h : Outcome s r) : compile s = r := by
  cases h with
  | tooLong hl => simp only [compile, maxLength, Text.byteSize_toList, if_pos hl]
  | malformed hl hp =>
    simp only [compile, maxLength, Text.byteSize_toList, if_neg (Nat.not_lt.2 hl), hp]
  | tooDeep hl hp hh =>
    simp only [compile, maxLength, maxDepth, Text.byteSize_toList, Tree.depth_eq_height,
      if_neg (Nat.not_lt.2 hl), hp, if_pos hh]
  | fits hl hp hh =>
    simp only [compile, maxLength, maxDepth, Text.byteSize_toList, Tree.depth_eq_height,
      if_neg (Nat.not_lt.2 hl), hp, if_neg (Nat.not_lt.2 hh)]

section

variable {s : String} {e : Expression} {n m : Nat}

theorem compile_eq_tooLong_iff :
    compile s = .error (.tooLong n m) ↔
      4096 < s.utf8ByteSize ∧ n = s.utf8ByteSize ∧ m = 4096 := by
  constructor
  · intro h
    cases h ▸ outcome_compile s with
    | tooLong hl => exact ⟨hl, rfl, rfl⟩
  · rintro ⟨hl, rfl, rfl⟩
    exact (Outcome.tooLong hl).compile_eq

theorem compile_eq_malformed_iff {err : ReadError} :
    compile s = .error (.malformed err) ↔
      s.utf8ByteSize ≤ 4096 ∧ Tree.parse s = .error err := by
  constructor
  · intro h
    cases h ▸ outcome_compile s with
    | malformed hl hp => exact ⟨hl, hp⟩
  · rintro ⟨hl, hp⟩
    exact (Outcome.malformed hl hp).compile_eq

theorem compile_eq_tooDeep_iff :
    compile s = .error (.tooDeep n m) ↔
      s.utf8ByteSize ≤ 4096 ∧ ∃ t, Tree.parse s = .ok t ∧ 64 < t.height ∧ n = t.height ∧ m = 64 := by
  constructor
  · intro h
    cases h ▸ outcome_compile s with
    | tooDeep hl hp hh => exact ⟨hl, _, hp, hh, rfl, rfl⟩
  · rintro ⟨hl, t, hp, hh, rfl, rfl⟩
    exact (Outcome.tooDeep hl hp hh).compile_eq

theorem compile_eq_ok_iff :
    compile s = .ok e ↔
      s.utf8ByteSize ≤ 4096 ∧ Tree.parse s = .ok e.tree ∧ e.tree.height ≤ 64 ∧ e.source = s := by
  constructor
  · intro h
    cases h ▸ outcome_compile s with
    | fits hl hp hh => exact ⟨hl, hp, hh, rfl⟩
  · rintro ⟨hl, hp, hh, rfl⟩
    exact (Outcome.fits hl hp hh).compile_eq

end

end Expression

namespace Expressions

open Expression

variable {u : TimedCache Expression}

theorem Reached.height_of_cached (h : Reached u) {slot : Slot Expression}
    (hs : slot ∈ u.cache.slots) {e : Expression} (he : slot.value = some e) :
    compile slot.key = .ok e ∧ e.tree.height ≤ 64 := by
  have hc := h.faithful slot hs e he
  obtain ⟨-, -, hh, -⟩ := compile_eq_ok_iff.1 hc
  exact ⟨hc, hh⟩

theorem evaluate_of_reached (h : Reached u) (text : String) (arguments : List Value) :
    (∃ err, compile text = .error err ∧
        (evaluate u.cache u.now text arguments).1 = .error (.error err)) ∨
      ∃ e : Expression, compile text = .ok e ∧ e.tree.height ≤ 64 ∧
        (evaluate u.cache u.now text arguments).1 = e.execute (Bindings.ofArguments arguments) := by
  rw [(evaluate_spec h.faithful u.now text arguments).1, evaluateAfresh]
  cases hc : compile text with
  | error err => exact .inl ⟨err, rfl, rfl⟩
  | ok e =>
    obtain ⟨-, -, hh, -⟩ := compile_eq_ok_iff.1 hc
    exact .inr ⟨e, rfl, hh, rfl⟩

end Expressions

namespace Expression

/-- A text compiles exactly if it is no longer than 4096 bytes, can be read, and gives a tree no
higher than 64, and of what is wrong with it the first is the error. The height is found by visiting
each node of the tree once. So an evaluator, whatever it went through, neither holds nor executes an
expression of greater height. -/
theorem compiles_iff_within_limits (s : String) :
    (∀ n m, compile s = .error (.tooLong n m) ↔
      4096 < s.utf8ByteSize ∧ n = s.utf8ByteSize ∧ m = 4096) ∧
    (∀ err, compile s = .error (.malformed err) ↔
      s.utf8ByteSize ≤ 4096 ∧ Tree.parse s = .error err) ∧
    (∀ n m, compile s = .error (.tooDeep n m) ↔
      s.utf8ByteSize ≤ 4096 ∧
        ∃ t, Tree.parse s = .ok t ∧ 64 < t.height ∧ n = t.height ∧ m = 64) ∧
    (∀ e, compile s = .ok e ↔
      s.utf8ByteSize ≤ 4096 ∧ Tree.parse s = .ok e.tree ∧ e.tree.height ≤ 64 ∧ e.source = s) ∧
    (∀ t : Tree, t.depth = t.height ∧ Tree.Walk.visit^[t.size] (.start t) = ⟨t.height, []⟩ ∧
      ∀ n, (Tree.Walk.visit^[n] (.start t)).stack = [] ↔ t.size ≤ n) ∧
    ∀ u : TimedCache Expression, Expressions.Reached u →
      (∀ slot ∈ u.cache.slots, ∀ e, slot.value = some e →
        compile slot.key = .ok e ∧ e.tree.height ≤ 64) ∧
      ∀ arguments,
        (∃ err, compile s = .error err ∧
          (Expressions.evaluate u.cache u.now s arguments).1 = .error (.error err)) ∨
        ∃ e : Expression, compile s = .ok e ∧ e.tree.height ≤ 64 ∧
          (Expressions.evaluate u.cache u.now s arguments).1 =
            e.execute (Bindings.ofArguments arguments) := by
  refine ⟨?_, ?_, ?_, ?_, ?_, ?_⟩
  · exact fun _ _ => compile_eq_tooLong_iff
  · exact fun _ => compile_eq_malformed_iff
  · exact fun _ _ => compile_eq_tooDeep_iff
  · exact fun _ => compile_eq_ok_iff
  · intro t
    exact ⟨t.depth_eq_height, Tree.Walk.iterate_size t, Tree.Walk.stack_iterate_eq_nil_iff t⟩
  · intro u hu
    constructor
    · intro slot hs e he
      exact hu.height_of_cached hs he
    · intro arguments
      exact Expressions.evaluate_of_reached hu s arguments

theorem compiles_iff_within_limits_kept :
    let u : TimedCache Expression := ⟨(Expressions.evaluate (.empty 10 1 0) 0 "1" [.int 5]).2, 0⟩
    let e : Expression := ⟨"1", .node .root [.leaf (.const (.int 1))]⟩
    compile "1" = .ok e ∧ Expressions.Reached u ∧ u.cache.slots = [⟨"1", some e, 0⟩] ∧
      e.tree.height ≤ 64 ∧ (Expressions.evaluate u.cache u.now "1" []).1 = .ok (.int 1) := by
  intro u e
  have hu : Expressions.Reached u := (Expressions.Reached.start 10 1 0).evaluate "1" [.int 5]
  obtain ⟨-, -, -, hok, -, hreached⟩ := compiles_iff_within_limits "1"
  have he : compile "1" = .ok e := (hok e).2 ⟨by decide, by rfl, by decide, rfl⟩
  have hslots : u.cache.slots = [⟨"1", some e, 0⟩] := by
    have hp : Cache.peek? (.empty 10 1 0 : Cache Expression) 0 "1" = none := rfl
    simp only [u, Expressions.evaluate, Expressions.compiled, Cache.getOrCompile,
      Cache.getOrCompileUntil_ok hp he]
    rfl
  obtain ⟨hkept, hexecuted⟩ := hreached u hu
  refine ⟨he, hu, hslots, (hkept _ (hslots ▸ List.mem_singleton_self _) e rfl).2, ?_⟩
  rcases hexecuted [] with ⟨err, herr, -⟩ | ⟨e', he', -, hvalue⟩
  · rw [he] at herr
    cases herr
  · rw [he] at he'
    cases he'
    rw [hvalue]
    rfl

end Expression
end FaultInjection
