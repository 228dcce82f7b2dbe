import FaultInjection.Config.Shape
import FaultInjection.Expression.Basic
import FaultInjection.Limit.Basic
import FaultInjection.Pattern.Whole
import FaultInjection.Registry

namespace FaultInjection

structure RuleConfig where
  id : Option String
  target : String
  action : String
  matcher : Option (Dict Json)
  paramExp : Option String
  flags : Dict Json

inductive RuleFault
  | blankField (name : String)
  | invalidLimit (e : LimitError)
  | invalidPattern (key text : String)
  | invalidFlag (name : String)
  | invalidExpression (text : String) (e : ExpressionError)

structure ConfigError where
  index : Nat
  fault : RuleFault

namespace RuleFault

def message : RuleFault → String
  | .blankField name => "\"" ++ name ++ "\" must not be empty"
  | .invalidLimit e => e.message
  | .invalidPattern key text => "invalid pattern \"" ++ text ++ "\" for \"" ++ key ++ "\""
  | .invalidFlag name => "flag \"" ++ name ++ "\" must be a string, number or boolean"
  | .invalidExpression text e =>
    "invalid parameter expression \"" ++ text ++ "\": " ++ e.message

end RuleFault

def ConfigError.message (e : ConfigError) : String :=
  "rule " ++ toString e.index ++ ": " ++ e.fault.message

namespace RuleConfig

open Shape

variable {τ : Type} [Source τ]

def fields : List (Shape.Field τ) :=
  [optional "id" (nullable text), required "target" text, required "action" text,
    optional "matcher" (nullable (dict any)), optional "param_exp" (nullable text),
    optional "flags" (dict any)]

def read : Reader τ RuleConfig := fun d => do
  let ms ← record "RuleConfig" fields d
  pure {
    id := ← get ms "id" (nullable text) none
    target := ← need ms "target" text
    action := ← need ms "action" text
    matcher := ← get ms "matcher" (nullable (dict any)) none
    paramExp := ← get ms "param_exp" (nullable text) none
    flags := ← get ms "flags" (dict any) Dict.empty }

def conditions : List (String × Json) → Except RuleFault (List (String × Value))
  | [] => .ok []
  | (key, j) :: js =>
    let expected := j.toValue
    if Key.isRegex key && (Pattern.compileWhole? expected.render).isNone then
      .error (.invalidPattern key expected.render)
    else (conditions js).map ((key, expected) :: ·)

def flagText? : Json → Option String
  | .str s => some s
  | .int n => some (toString n)
  | .float x => some (Decimal.compact.text x)
  | .bool b => some (if b then "true" else "false")
  | _ => none

def flagTexts : List (String × Json) → Except RuleFault (List (String × String))
  | [] => .ok []
  | (name, j) :: js =>
    match flagText? j with
    | some text => (flagTexts js).map ((name, text) :: ·)
    | none => .error (.invalidFlag name)

def checkExpression (text : Option String) : Except RuleFault Unit :=
  match text with
  | none => .ok ()
  | some text =>
    if Text.isBlank text then .ok ()
    else
      match Expression.compile text with
      | .ok _ => .ok ()
      | .error e => .error (.invalidExpression text e)

def toRule (c : RuleConfig) : Except RuleFault Rule := do
  if Text.isBlank c.target then throw (.blankField "target")
  if Text.isBlank c.action then throw (.blankField "action")
  let conditions ← match c.matcher with
    | some m => (conditions m.entries).map fun cs => some (Dict.ofList cs)
    | none => pure none
  let flags ← flagTexts c.flags.entries
  let rule : Rule := {
    id := c.id
    target := c.target
    action := c.action
    conditions := conditions
    expression := c.paramExp
    flags := Dict.ofList flags }
  match Limit.of rule with
  | .ok _ => checkExpression rule.expressionText?
  | .error e => throw (.invalidLimit e)
  pure rule

end RuleConfig

structure RuleSet where
  rules : List RuleConfig

namespace RuleSet

open Shape

variable {τ : Type} [Source τ]

def read : Reader τ RuleSet := fun d => do
  let ms ← record "RuleSetConfig" [optional "rules" (list RuleConfig.read)] d
  pure ⟨← get ms "rules" (list RuleConfig.read) []⟩

def rulesFrom : (index : Nat) → List RuleConfig → Except ConfigError (List Rule)
  | _, [] => .ok []
  | index, c :: cs =>
    match c.toRule with
    | .error fault => .error ⟨index, fault⟩
    | .ok r => (rulesFrom (index + 1) cs).map (r :: ·)

def toRules (s : RuleSet) : Except ConfigError (List Rule) :=
  rulesFrom 0 s.rules

end RuleSet

def Registry.load (r : Registry) (s : RuleSet) : Except ConfigError (Nat × Registry) :=
  s.toRules.map fun rules => (rules.length, r.registerAll rules)

end FaultInjection
