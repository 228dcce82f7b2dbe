import FaultInjection.Expression.Evaluator
import FaultInjection.Proofs.Cache.Faithful

namespace FaultInjection.Expressions

variable {xs : Expressions}

def evaluateAfresh (text : String) (arguments : List Value) : Except Expression.Stop Value :=
  match Expression.compile text with
  | .ok e => e.execute (Expression.Bindings.ofArguments arguments)
  | .error e => .error (.error e)

def judge (text : Option String) (arguments : List Value) : Except Crash Bool :=
  match stated? text with
  | none => .ok true
  | some text =>
    if arguments.isEmpty then .ok true else passes (evaluateAfresh text arguments)

theorem evaluate_spec (h : xs.Faithful Expression.compile) (now : Nat) (text : String)
    (arguments : List Value) :
    (xs.evaluate now text arguments).1 = evaluateAfresh text arguments ∧
      (xs.evaluate now text arguments).2.Faithful Expression.compile := by
  have hv := Cache.getOrCompile_fst h now text
  have hf := Cache.faithful_getOrCompile h now text
  unfold evaluate compiled evaluateAfresh
  rw [← hv]
  generalize xs.getOrCompile now text Expression.compile = m at hf ⊢
  obtain ⟨e | e, ys⟩ := m
  · exact ⟨rfl, hf⟩
  · exact ⟨rfl, hf⟩

theorem pass_spec (h : xs.Faithful Expression.compile) (now : Nat) (text : Option String)
    (arguments : List Value) :
    (xs.pass now text arguments).1 = judge text arguments ∧
      (xs.pass now text arguments).2.Faithful Expression.compile := by
  unfold pass judge
  cases stated? text with
  | none => exact ⟨rfl, h⟩
  | some text =>
    obtain ⟨hv, hf⟩ := evaluate_spec h now text arguments
    simp only
    split
    · exact ⟨rfl, h⟩
    · exact ⟨congrArg passes hv, hf⟩

inductive Reached : TimedCache Expression → Prop
  | start (ttl capacity origin : Nat) : Reached (.empty ttl capacity origin)
  | evaluate {t : TimedCache Expression} (h : Reached t) (text : String)
      (arguments : List Value) : Reached ⟨(evaluate t.cache t.now text arguments).2, t.now⟩
  | pass {t : TimedCache Expression} (h : Reached t) (text : Option String)
      (arguments : List Value) : Reached ⟨(pass t.cache t.now text arguments).2, t.now⟩
  | perform {t : TimedCache Expression} (h : Reached t)
      {op : CacheUse ExpressionError Expression} (hop : op.CompilesBy Expression.compile) :
      Reached (t.perform op).2

theorem Reached.faithful {t : TimedCache Expression} (h : Reached t) :
    t.cache.Faithful Expression.compile := by
  induction h with
  | start ttl capacity origin => exact Cache.faithful_empty ttl capacity origin
  | evaluate _ text arguments ih => exact (evaluate_spec ih _ text arguments).2
  | pass _ text arguments ih => exact (pass_spec ih _ text arguments).2
  | perform _ hop ih => exact TimedCache.faithful_perform ih hop

end FaultInjection.Expressions
