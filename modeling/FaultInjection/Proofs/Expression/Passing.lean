import FaultInjection.CommandLine
import FaultInjection.Proofs.Expression.Reads

namespace FaultInjection.Expressions

variable {text : String} {arguments : List Value} {t u : TimedCache Expression}

theorem stated?_of_not_blank (h : Text.isBlank text = false) :
    stated? (some text) = some (Text.trim text) := by
  have hne : Text.trim text ≠ "" := by
    rw [ne_eq, Text.trim_eq_empty_iff, h]
    nofun
  simp [stated?, hne]

theorem stated?_of_blank (h : Text.isBlank text = true) : stated? (some text) = none := by
  simp [stated?, (Text.trim_eq_empty_iff text).2 h]

theorem passes_evaluateAfresh_trim (hl : text.utf8ByteSize ≤ 4096) (arguments : List Value) :
    passes (evaluateAfresh (Text.trim text) arguments) = passes (evaluateAfresh text arguments) := by
  cases hc : Expression.compile text with
  | ok e =>
    simp only [evaluateAfresh, hc, Expression.compile_trim hc]
    rfl
  | error err =>
    cases ht : Expression.compile (Text.trim text) with
    | ok e =>
      rw [Expression.compile_of_compile_trim hl ht] at hc
      cases hc
    | error err' => simp only [evaluateAfresh, hc, ht, passes]

theorem passes_eq_ok_true_iff {r : Except Expression.Stop Value} :
    passes r = .ok true ↔ r = .ok (.bool true) := by
  unfold passes
  split <;> simp_all

theorem pass_eq_evaluate (ht : Reached t) (hu : Reached u) (hb : Text.isBlank text = false)
    (hl : text.utf8ByteSize ≤ 4096) (ha : arguments ≠ []) :
    (pass t.cache t.now (some text) arguments).1 =
      passes (evaluate u.cache u.now text arguments).1 := by
  have hsome : arguments.isEmpty = false := by simpa using ha
  rw [(pass_spec ht.faithful t.now (some text) arguments).1,
    (evaluate_spec hu.faithful u.now text arguments).1]
  simp only [judge, stated?_of_not_blank hb, hsome]
  exact passes_evaluateAfresh_trim hl arguments

theorem pass_of_unstated (xs : Expressions) (now : Nat) {text : Option String}
    (h : ∀ s, text = some s → Text.isBlank s = true) (arguments : List Value) :
    xs.pass now text arguments = (.ok true, xs) := by
  have hnone : stated? text = none := by
    cases text with
    | none => rfl
    | some s => exact stated?_of_blank (h s rfl)
  simp only [pass, hnone]

theorem pass_nil (xs : Expressions) (now : Nat) (text : Option String) :
    xs.pass now text [] = (.ok true, xs) := by
  unfold pass
  cases stated? text <;> rfl

theorem commandLine_of_true (h : evaluateAfresh text arguments = .ok (.bool true)) :
    CommandLine.evaluate text arguments = .done "true\n" := by
  have hfresh := (Reached.start Injector.defaultTtl Injector.defaultCapacity 0).faithful
  have heval := (evaluate_spec hfresh 0 text arguments).1
  rw [h] at heval
  change (evaluate (.empty _ _ 0) 0 text arguments).1 = _ at heval
  simp only [CommandLine.evaluate, heval]
  rfl

/-- Whatever two evaluators went through, with some arguments a call passes an expression in the one
exactly if the other evaluates its text, blanks and all, to `true`, as the command line does; it
crashes in the one exactly if it does in the other. Without anything stated, or without arguments, a
call passes and nothing is compiled. -/
theorem pass_iff_evaluate_true (ht : Reached t) :
    (∀ u, Reached u → ∀ text, Text.isBlank text = false → text.utf8ByteSize ≤ 4096 →
      ∀ arguments, arguments ≠ [] →
        ((pass t.cache t.now (some text) arguments).1 = .ok true ↔
          (evaluate u.cache u.now text arguments).1 = .ok (.bool true)) ∧
        (pass t.cache t.now (some text) arguments).1 =
          passes (evaluate u.cache u.now text arguments).1 ∧
        ((pass t.cache t.now (some text) arguments).1 = .ok true →
          CommandLine.evaluate text arguments = .done "true\n")) ∧
    (∀ text, (∀ s, text = some s → Text.isBlank s = true) → ∀ arguments,
      pass t.cache t.now text arguments = (.ok true, t.cache)) ∧
    ∀ text, pass t.cache t.now text [] = (.ok true, t.cache) := by
  refine ⟨?_, ?_, ?_⟩
  · intro u hu text hb hl arguments ha
    have heq := pass_eq_evaluate ht hu hb hl ha
    rw [heq]
    refine ⟨passes_eq_ok_true_iff, rfl, ?_⟩
    intro h
    apply commandLine_of_true
    rw [← (evaluate_spec hu.faithful u.now text arguments).1]
    exact passes_eq_ok_true_iff.1 h
  · intro text h arguments
    exact pass_of_unstated _ _ h arguments
  · exact pass_nil _ _

theorem pass_iff_evaluate_true_spaced :
    let t : TimedCache Expression := ((TimedCache.empty 10 1 0).perform
      (.fetch "arg0" Expression.compile 11)).2
    let u : TimedCache Expression := .empty 10 1 0
    let text := " arg0\n"
    Reached t ∧ Reached u ∧ Text.isBlank text = false ∧ text.utf8ByteSize ≤ 4096 ∧
      (evaluate u.cache u.now text [.bool true]).1 = .ok (.bool true) ∧
      (pass t.cache t.now (some text) [.bool true]).1 = .ok true ∧
      CommandLine.evaluate text [.bool true] = .done "true\n" := by
  have htokens : Expression.tokens " arg0\n" = .ok [.identifier "arg0"] := by rfl
  have hcompile := Expression.compile_of_identifier (by decide) htokens
  intro t u text
  have hu : Reached u := Reached.start 10 1 0
  have ht : Reached t := hu.perform rfl
  have hb : Text.isBlank text = false := by decide
  have hl : text.utf8ByteSize ≤ 4096 := by decide
  have hvalue : (evaluate u.cache u.now text [.bool true]).1 = .ok (.bool true) := by
    rw [(evaluate_spec hu.faithful _ _ _).1, evaluateAfresh, hcompile]
    rfl
  obtain ⟨hiff, -, hprints⟩ := (pass_iff_evaluate_true ht).1 u hu text hb hl [.bool true]
    (List.cons_ne_nil _ _)
  have hpass := hiff.2 hvalue
  exact ⟨ht, hu, hb, hl, hvalue, hpass, hprints hpass⟩

end FaultInjection.Expressions
