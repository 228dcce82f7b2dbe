import FaultInjection.Config.RuleSet
import FaultInjection.Conformance.Actions
import FaultInjection.Conformance.Matchers
import FaultInjection.Injection.Injector

namespace FaultInjection.Conformance

structure Case where
  name : String
  target : String
  attributes : Option (Dict Json)
  arguments : List Json
  matchers : Dict String
  /-- How often the call is made; the last time counts. -/
  repetitions : Nat
  expect : String
  expectRule : Option String
  expectFlags : Dict String
  counts : Dict Nat

structure Fixture where
  name : String
  description : String
  rules : List RuleConfig
  cases : List Case

namespace Case

open Shape

variable {τ : Type} [Source τ]

def fields : List (Shape.Field τ) :=
  [required "name" text, required "target" text, optional "attributes" (nullable (dict any)),
    optional "arguments" (list any), optional "matchers" (dict text),
    optional "repeat" (natural "usize"), required "expect" text,
    optional "expect_rule" (nullable text), optional "expect_flags" (dict text),
    optional "counts" (dict (natural "u64"))]

def read : Reader τ Case := fun d => do
  let ms ← Shape.record "TestCase" fields d
  pure {
    name := ← need ms "name" text
    target := ← need ms "target" text
    attributes := ← get ms "attributes" (nullable (dict any)) none
    arguments := ← get ms "arguments" (list any) []
    matchers := ← get ms "matchers" (dict text) Dict.empty
    repetitions := ← get ms "repeat" (natural "usize") 1
    expect := ← need ms "expect" text
    expectRule := ← get ms "expect_rule" (nullable text) none
    expectFlags := ← get ms "expect_flags" (dict text) Dict.empty
    counts := ← get ms "counts" (dict (natural "u64")) Dict.empty }

def withMatchers (name : String) (call : Call) : List (String × String) → Except Crash Call
  | [] => .ok call
  | (key, m) :: ms =>
    match matcher? m with
    | some found => withMatchers name (call.withMatcher key found) ms
    | none => .error ⟨some ("case '" ++ name ++ "': unknown matcher '" ++ m ++ "'")⟩

def call (c : Case) : Except Crash Call :=
  withMatchers c.name
    { target := c.target
      attributes := c.attributes.map (·.map Json.toValue)
      arguments := c.arguments.map Json.toValue }
    c.matchers.entries

end Case

structure CaseResult where
  name : String
  expected : String
  actual : String
  mismatches : List String

namespace CaseResult

def passed (r : CaseResult) : Bool :=
  r.mismatches.isEmpty

end CaseResult

def showOption : Option String → String
  | some s => "Some(" ++ Text.quoted s ++ ")"
  | none => "None"

namespace Case

def countMismatch? (registry : Registry) (experiments : Dict Experiment) (id : String)
    (expected : Nat) : Option String :=
  match experiments.get? id with
  | none => some ("no rule with id " ++ id)
  | some e =>
    let n := (registry.count e).toNat
    if n = expected then none
    else some ("count[" ++ id ++ "]=" ++ toString n ++ ", expected " ++ toString expected)

def mismatches (c : Case) (r : Injector.Result Recording) (experiments : Dict Experiment) :
    List String :=
  let decision := if r.decision.kind = c.expect then [] else ["decision " ++ r.decision.describe]
  let actual := r.decision.rule?.bind (·.id)
  let rule := match c.expectRule with
    | some expected =>
      if actual = some expected then []
      else ["rule " ++ showOption actual ++ ", expected " ++ expected]
    | none => []
  let flags := c.expectFlags.entries.filterMap fun (name, expected) =>
    let actual := r.call.flags.get? name
    if actual = some expected then none
    else some ("flag " ++ name ++ "=" ++ showOption actual ++ ", expected " ++ expected)
  let counts := c.counts.entries.filterMap fun (id, expected) =>
    countMismatch? r.injector.registry experiments id expected
  decision ++ rule ++ flags ++ counts

def runCall (call : Call) : (extra : Nat) → Injector Recording → Injector.Result Recording
  | 0, inj => inj.inject call
  | extra + 1, inj => runCall call extra (inj.inject call).injector

def run (c : Case) (experiments : Dict Experiment) (inj : Injector Recording) :
    Except Crash (CaseResult × Injector Recording) := do
  let r := runCall (← c.call) (c.repetitions - 1) inj
  pure (⟨c.name, c.expect, r.decision.kind, c.mismatches r experiments⟩, r.injector)

def runAll (experiments : Dict Experiment) (inj : Injector Recording) :
    List Case → Except Crash (List CaseResult)
  | [] => .ok []
  | c :: cs => do
    let (result, inj) ← c.run experiments inj
    pure (result :: (← runAll experiments inj cs))

end Case

namespace Fixture

open Shape

variable {τ : Type} [Source τ]

def read : Reader τ Fixture := fun d => do
  let ms ← Shape.record "Fixture"
    [required "name" text, optional "description" text,
      required "rules" (list RuleConfig.read), required "cases" (list Case.read)] d
  pure {
    name := ← need ms "name" text
    description := ← get ms "description" text ""
    rules := ← need ms "rules" (list RuleConfig.read)
    cases := ← need ms "cases" (list Case.read) }

def enroll (registry : Registry) (experiments : Dict Experiment) :
    List Rule → Registry × Dict Experiment
  | [] => (registry, experiments)
  | rule :: rules =>
    let (e, registry) := registry.register rule
    let experiments := match rule.id with
      | some id => experiments.insert id e
      | none => experiments
    enroll registry experiments rules

def run (f : Fixture) : Except Crash (List CaseResult) :=
  match RuleSet.toRules ⟨f.rules⟩ with
  | .error e => .error ⟨some ("fixture '" ++ f.name ++ "': " ++ e.message)⟩
  | .ok rules =>
    let (registry, experiments) := enroll Registry.empty Dict.empty rules
    Case.runAll experiments
      (Injector.new Injector.defaultTtl Injector.defaultCapacity actionTable registry []) f.cases

def firstFailure? (f : Fixture) (results : List CaseResult) : Option Crash :=
  (results.find? (!·.passed)).map fun r =>
    ⟨some ("Fixture '" ++ f.name ++ "' case '" ++ r.name ++ "' failed: expected " ++ r.expected ++
      ", got " ++ r.actual ++ " (" ++ "; ".intercalate r.mismatches ++ ")")⟩

def runAndAssert (f : Fixture) : Except Crash Unit := do
  match f.firstFailure? (← f.run) with
  | some c => throw c
  | none => pure ()

end Fixture
end FaultInjection.Conformance
