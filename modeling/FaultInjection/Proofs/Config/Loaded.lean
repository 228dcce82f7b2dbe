import FaultInjection.Proofs.Config.Validation
import FaultInjection.Proofs.Expression.Trim
import FaultInjection.Proofs.Injection.Run

/-!
What loads cannot fail for what is written in it. The checks of a rule look at the texts that are
read again when a call comes: the same patterns, the same limits, and expressions with the blanks
around them that a call does not see.
-/
namespace FaultInjection

structure Rule.Readable (r : Rule) : Prop where
  limit : ∃ limit, Limit.of r = .ok limit
  pattern : ∀ e ∈ r.entries, Key.isRegex e.1 = true → ∃ p, Patterns.compile e.2.render = .ok p
  expression : ∀ text, Expressions.stated? r.expressionText? = some text →
    ∃ e, Expression.compile text = .ok e

namespace RuleConfig

theorem pattern_of_conditions {js : List (String × Json)} {cs : List (String × Value)}
    (h : conditions js = .ok cs) :
    ∀ e ∈ cs, Key.isRegex e.1 = true → ∃ p, Patterns.compile e.2.render = .ok p := by
  induction js generalizing cs with
  | nil =>
    cases h
    exact nofun
  | cons j js ih =>
    obtain ⟨key, j⟩ := j
    simp only [conditions] at h
    split at h
    · cases h
    · next hchecked =>
      obtain ⟨rest, hrest, rfl⟩ := except_map_eq_ok h
      intro e he hregex
      rcases List.mem_cons.1 he with rfl | he
      · obtain ⟨p, hp⟩ : ∃ p, Pattern.compileWhole? j.toValue.render = some p := by
          apply Option.ne_none_iff_exists'.1
          simpa [hregex] using hchecked
        refine ⟨p, ?_⟩
        simp only [Patterns.compile, hp]
      · exact ih hrest e he hregex

theorem pattern_of_matcherValues {c : RuleConfig} {conditions : Option (Dict Value)}
    (h : c.matcherValues = .ok conditions) (flags : List (String × String)) :
    ∀ e ∈ (c.draft conditions flags).entries, Key.isRegex e.1 = true →
      ∃ p, Patterns.compile e.2.render = .ok p := by
  unfold matcherValues at h
  cases hm : c.matcher with
  | none =>
    rw [hm] at h
    cases h
    exact nofun
  | some m =>
    rw [hm] at h
    obtain ⟨cs, hcs, rfl⟩ := except_map_eq_ok h
    intro e he
    exact pattern_of_conditions hcs e (Entries.mem_ofPairs he)

theorem compile_of_checkExpression {text : Option String} (h : checkExpression text = .ok ())
    {stated : String} (hs : Expressions.stated? text = some stated) :
    ∃ e, Expression.compile stated = .ok e := by
  cases text with
  | none => cases hs
  | some text =>
    obtain ⟨htrim, hne⟩ := Option.filter_eq_some_iff.1 hs
    obtain rfl : Text.trim text = stated := Option.some.inj htrim
    have hblank : Text.isBlank text ≠ true := by
      intro hb
      simp [(Text.trim_eq_empty_iff text).2 hb] at hne
    simp only [checkExpression, if_neg hblank] at h
    split at h
    · next e he => exact ⟨_, Expression.compile_trim he⟩
    · cases h

theorem readable_of_toRule {c : RuleConfig} {r : Rule} (h : c.toRule = .ok r) : r.Readable := by
  rw [toRule_eq] at h
  obtain ⟨-, -, h⟩ := except_bind_eq_ok h
  obtain ⟨conditions, hconditions, h⟩ := except_bind_eq_ok h
  obtain ⟨flags, -, h⟩ := except_bind_eq_ok h
  obtain ⟨⟨⟩, hchecked, rfl⟩ := except_map_eq_ok h
  unfold checkRule at hchecked
  cases hl : Limit.of (c.draft conditions flags) with
  | error e =>
    rw [hl] at hchecked
    cases hchecked
  | ok limit =>
    rw [hl] at hchecked
    exact {
      limit := ⟨limit, hl⟩
      pattern := pattern_of_matcherValues hconditions flags
      expression := fun text => compile_of_checkExpression hchecked }

end RuleConfig

theorem RuleSet.readable_of_rulesFrom {index : Nat} {cs : List RuleConfig} {rules : List Rule}
    (h : rulesFrom index cs = .ok rules) : ∀ r ∈ rules, r.Readable := by
  induction cs generalizing index rules with
  | nil =>
    cases h
    exact nofun
  | cons c cs ih =>
    unfold rulesFrom at h
    split at h
    · cases h
    · next r hr =>
      obtain ⟨rest, hrest, rfl⟩ := except_map_eq_ok h
      intro r' hr'
      rcases List.mem_cons.1 hr' with rfl | hr'
      · exact RuleConfig.readable_of_toRule hr
      · exact ih hrest r' hr'

theorem LimitError.head?_message (e : LimitError) : e.message.toList.head? = some 'i' := by
  cases e with
  | invalidCount text =>
    change ("invalid effect count \"" ++ text ++ _).toList.head? = some 'i'
    simp
  | invalidPercent text =>
    change ("invalid effect percent \"" ++ text ++ _).toList.head? = some 'i'
    simp

theorem LimitError.message_ne {s : String} (h : s.toList.head? ≠ some 'i') (e : LimitError) :
    s ≠ e.message := by
  rintro rfl
  exact h e.head?_message

theorem Limit.admission_ok (limit : Limit) (count : UInt64) (draws : Draws) :
    ∃ b, (admission (.ok limit) count draws).verdict = .ok b := by
  cases limit with
  | unlimited => exact ⟨true, rfl⟩
  | count bound => exact ⟨_, rfl⟩
  | percent share =>
    simp only [admission]
    split
    · exact ⟨false, rfl⟩
    · exact ⟨true, rfl⟩

namespace Injector

variable {σ : Type}

def Attempt.LimitRead (a : Attempt σ) : Prop :=
  ∀ r (e : LimitError), a.settle.decision ≠ .failed r e.message

theorem limitRead_of_crash {a : Attempt σ} {c : Crash} (h : a.ending = .error c) :
    a.LimitRead := by
  intro r e hd
  have hne : c.reason ≠ e.message := LimitError.message_ne (by simp [Crash.reason]) e
  simp only [Attempt.settle, h] at hd
  exact hne (Decision.failed.inj hd).2

theorem limitRead_conclude (inj : Injector σ) (e : Experiment) (reaction : Reaction σ) :
    (inj.conclude e reaction).LimitRead := by
  unfold conclude
  simp only
  split
  · exact fun _ _ hd => nomatch hd
  · exact fun _ _ hd => nomatch hd
  · exact fun _ _ hd => nomatch hd
  · next message _ =>
    intro r err hd
    have hne : "action failed: " ++ message ≠ err.message :=
      LimitError.message_ne (by simp) err
    exact hne (Decision.failed.inj hd).2
  · exact limitRead_of_crash rfl

theorem limitRead_dispatch (inj : Injector σ) (e : Experiment) (call : Call) :
    (inj.dispatch e call).LimitRead := by
  unfold dispatch
  simp only
  split
  · intro r err hd
    have hne : "no executor for action \"" ++ e.rule.action ++ "\"" ≠ err.message :=
      LimitError.message_ne (by simp) err
    exact hne (Decision.failed.inj hd).2
  · exact limitRead_conclude inj e _

theorem limitRead_consider (inj : Injector σ) {e : Experiment} (h : e.rule.Readable) (call : Call) :
    (inj.consider e call).LimitRead := by
  obtain ⟨limit, hl⟩ := h.limit
  unfold consider
  simp only
  split
  · obtain ⟨b, hb⟩ := Limit.admission_ok limit (inj.registry.count e) inj.draws
    unfold askLimit Rule.admission
    simp only [hl, hb]
    cases b with
    | true => exact limitRead_dispatch _ e call
    | false => exact fun _ _ hd => nomatch hd
  · exact fun _ _ hd => nomatch hd
  · exact limitRead_of_crash rfl

theorem decision_ne_of_readable (inj : Injector σ) {r : Rule} (h : r.Readable) (call : Call)
    (e : LimitError) : (inj.inject call).decision ≠ .failed (some r) e.message := by
  intro hd
  obtain ⟨ps, ha⟩ := inj.attempt_eq call
  unfold inject at hd
  cases hf : inj.found call with
  | error c =>
    rw [hf] at ha
    rw [ha] at hd
    cases hd
  | ok found =>
    cases found with
    | none =>
      rw [hf] at ha
      rw [ha] at hd
      cases hd
    | some x =>
      rw [hf] at ha
      simp only at ha
      have hx := (concerns_consider { inj with patterns := ps } x call).rule
      rw [ha] at hd
      rw [hd] at hx
      obtain rfl : r = x.rule := Option.some.inj hx
      exact limitRead_consider _ h call _ e hd

end Injector

/-- A set of rules that loads cannot fail at run time for what is written in it. Of each rule that it
registers the limit is read, each pattern compiles where a comparison comes to it, and so does the
expression that arguments have to pass, whatever the caches hold by then. -/
theorem Registry.loaded_rules_readable {r r' : Registry} {s : RuleSet} {n : Nat}
    (h : r.load s = .ok (n, r')) :
    ∃ rules, s.toRules = .ok rules ∧ r' = r.registerAll rules ∧ n = rules.length ∧
      ∀ rule ∈ rules, (∃ limit, Limit.of rule = .ok limit) ∧
        ∀ {σ : Type} {inj : Injector σ}, inj.Reached → ∀ call : Call,
          (∀ e : LimitError, (inj.inject call).decision ≠ .failed (some rule) e.message) ∧
          (∀ key expected ps, (rule, key, expected, ps) ∈ inj.weighed call →
            Key.isRegex key = true →
            ∃ p, (ps.getOrCompile inj.now expected.render Patterns.compile).1 = .ok p) ∧
          ∀ text, Expressions.stated? rule.expressionText? = some text →
            ∃ e, (inj.expressions.compiled inj.now text).1 = .ok e := by
  obtain ⟨rules, hrules, heq⟩ := except_map_eq_ok h
  cases heq
  refine ⟨rules, hrules, rfl, rfl, fun rule hrule => ?_⟩
  have hr : rule.Readable := RuleSet.readable_of_rulesFrom hrules rule hrule
  refine ⟨hr.limit, fun {σ inj} hreached call => ⟨?_, ?_, ?_⟩⟩
  · exact inj.decision_ne_of_readable hr call
  · intro key expected ps hw hregex
    obtain ⟨hmem, hf⟩ := Experiment.of_mem_weighed hreached.faithful.patterns hw
    rw [Cache.getOrCompile_fst hf]
    exact hr.pattern (key, expected) hmem hregex
  · intro text ht
    rw [Expressions.compiled, Cache.getOrCompile_fst hreached.faithful.expressions]
    exact hr.expression text ht

theorem Registry.loaded_rules_readable_spaced :
    let config : RuleConfig := {
      id := none, target := "t", action := "a", flags := Dict.empty, paramExp := some " 1 "
      matcher := some (Dict.ofList [("effect-count", .int 2), ("host-regex", .str "a")]) }
    let rule : Rule := {
      target := "t", action := "a", expression := some " 1 "
      conditions := some (Dict.ofList [("effect-count", .int 2), ("host-regex", .str "a")]) }
    let inj := Injector.start 1 1 ActionTable.empty (Registry.empty.registerAll [rule]) ()
      (Draws.constant 1)
    let call : Call := { target := "t" }
    Registry.empty.load ⟨[config]⟩ = .ok (1, Registry.empty.registerAll [rule]) ∧ inj.Reached ∧
      (rule, "host-regex", .str "a", inj.patterns) ∈ inj.weighed call ∧
      (∃ p, (inj.patterns.getOrCompile inj.now "a" Patterns.compile).1 = .ok p) ∧
      Expressions.stated? rule.expressionText? = some "1" ∧
      ∃ e, (inj.expressions.compiled inj.now "1").1 = .ok e := by
  intro config rule inj call
  have hconditions : RuleConfig.conditions [("effect-count", .int 2), ("host-regex", .str "a")] =
      .ok [("effect-count", .int 2), ("host-regex", .str "a")] := by
    have hcount : Key.isRegex "effect-count" = false := by decide
    have hregex : Key.isRegex "host-regex" = true := by decide
    have hpattern : (Pattern.compileWhole? "a").isNone = false := by decide +kernel
    have hrender : (Json.toValue (.str "a")).render = "a" := by rfl
    simp only [RuleConfig.conditions, hcount, hregex, hrender, hpattern]
    rfl
  have hexpression : RuleConfig.checkExpression (some " 1 ") = .ok () := by
    have hblank : Text.isBlank " 1 " = false := by decide
    let tree : Expression.Tree := .node .root [.leaf (.const (.int 1))]
    have hdepth : tree.depth = 2 := by
      simp [tree, Expression.Tree.depth, Expression.Tree.deepest, Expression.Tree.oneDeeper,
        Expression.Tree.leaf]
    have hcompile : Expression.compile " 1 " = .ok ⟨" 1 ", tree⟩ := by
      apply Expression.compile_eq_ok (by decide) (by rfl)
      rw [hdepth]
      decide
    simp only [RuleConfig.checkExpression, hblank, hcompile]
    rfl
  have hlimit : Limit.of rule = .ok (.count 2) := by rfl
  have hrule : config.toRule = .ok rule := by
    have hvalues : config.matcherValues = .ok rule.conditions :=
      congrArg (Except.map fun cs => some (Dict.ofList cs)) hconditions
    have hchecked : RuleConfig.checkRule rule = .ok () := by
      rw [RuleConfig.checkRule, hlimit]
      exact hexpression
    have htarget : Text.isBlank config.target = false := by decide
    have haction : Text.isBlank config.action = false := by decide
    have hnames : config.checkNames = .ok () := by
      simp only [RuleConfig.checkNames, htarget, haction]
      rfl
    rw [RuleConfig.toRule_eq, hnames, hvalues]
    exact congrArg (Except.map fun _ => rule) hchecked
  have hrules : RuleSet.toRules ⟨[config]⟩ = .ok [rule] := by
    simp only [RuleSet.toRules, RuleSet.rulesFrom, hrule]
    rfl
  have hload : Registry.empty.load ⟨[config]⟩ = .ok (1, Registry.empty.registerAll [rule]) := by
    rw [Registry.load, hrules]
    rfl
  have hreached : inj.Reached := Injector.Reached.start 1 1 _ _ () _
  have hweighed : (rule, "host-regex", .str "a", inj.patterns) ∈ inj.weighed call :=
    List.mem_append_left _ (List.mem_map.2 ⟨_, List.mem_cons_self, rfl⟩)
  have hstated : Expressions.stated? rule.expressionText? = some "1" := by rfl
  obtain ⟨rules, hrules', -, -, h⟩ := loaded_rules_readable hload
  obtain rfl : [rule] = rules := Except.ok.inj (hrules.symm.trans hrules')
  obtain ⟨-, hpatterns, hexpressions⟩ := (h rule List.mem_cons_self).2 hreached call
  exact ⟨hload, hreached, hweighed, hpatterns _ _ _ hweighed (by decide), hstated,
    hexpressions _ hstated⟩

end FaultInjection
