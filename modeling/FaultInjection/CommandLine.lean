import FaultInjection.Config.RuleSet
import FaultInjection.Conformance.Actions
import FaultInjection.Injection.Injector
import FaultInjection.Document.Stream
import FaultInjection.Json.Reader
import FaultInjection.Text.Split

namespace FaultInjection.CommandLine

structure Outcome where
  exit : Nat
  output : String
  errors : String

structure Options where
  target : Option String := none
  attributes : List (String × Value) := []
  arguments : List Value := []
  repetitions : Nat := 1

def usage : String :=
  "Usage: saboteur <command> [options]\n\n" ++
  "Commands:\n" ++
  "  check <rules>                                  Validate a rule set\n" ++
  "  eval <rules> --target <t> [--attr key=value...] [--arg value...] [--repeat n]\n" ++
  "                                                 Dry-run calls against a rule set\n" ++
  "  expr <expression> [--arg value...]             Evaluate a parameter expression\n" ++
  "  help                                           Show this help\n\n" ++
  "Values given to --attr and --arg are parsed as JSON when possible.\n" ++
  "Set SABOTEUR_LOG to control log output (default: warn).\n"

inductive Error
  | missingValue (option : String)
  | invalidAttribute (pair : String)
  | invalidRepetitions (text : String)
  | unexpectedArgument (text : String)
  | checkOperands
  | evalOperands
  | evalTarget
  | exprOperands
  | exprOptions
  | unreadable (path reason : String)
  | notJson
  | notDocument
  | wrongShape (json : Bool) (e : ShapeError)
  | invalidRules (e : ConfigError)
  | expression (e : ExpressionError)

def Error.message : Error → String
  | .missingValue option => option ++ " requires a value"
  | .invalidAttribute pair => "invalid attribute \"" ++ pair ++ "\", expected key=value"
  | .invalidRepetitions text => "invalid repeat count \"" ++ text ++ "\""
  | .unexpectedArgument text => "unexpected argument \"" ++ text ++ "\""
  | .checkOperands => "check requires exactly one rules file path"
  | .evalOperands => "eval requires a rules file path"
  | .evalTarget => "eval requires --target"
  | .exprOperands => "expr requires an expression"
  | .exprOptions => "expr only accepts --arg"
  | .unreadable path reason => "failed to read \"" ++ path ++ "\": " ++ reason
  | .notJson => "JSON parse error: not a document"
  | .notDocument => "YAML parse error: not a document"
  | .wrongShape json e => (if json then "JSON" else "YAML") ++ " parse error: " ++ e.message
  | .invalidRules e => "rules invalid: " ++ e.message
  | .expression e => e.message

def parseValue (text : String) : Value :=
  match Json.parse? text with
  | some j => j.toValue
  | none => .str text

def parseAttribute (pair : String) : Except Error (String × Value) :=
  match Text.splitFirst? '=' pair.toList with
  | some (key, text) => .ok (String.ofList key, parseValue (String.ofList text))
  | none => .error (.invalidAttribute pair)

def parseRepetitions (text : String) : Except Error Nat :=
  match Decimal.unsigned? UInt64.size text.toList with
  | some n => .ok n
  | none => .error (.invalidRepetitions text)

def isOption (arg : String) : Bool :=
  ["--target", "--attr", "--arg", "--repeat"].contains arg

def withOption (o : Options) (option value : String) : Except Error Options := do
  match option with
  | "--target" => pure { o with target := some value }
  | "--attr" => pure { o with attributes := o.attributes ++ [← parseAttribute value] }
  | "--arg" => pure { o with arguments := o.arguments ++ [parseValue value] }
  | _ => pure { o with repetitions := ← parseRepetitions value }

def parseOptions (o : Options) : List String → Except Error Options
  | [] => .ok o
  | [arg] => .error (if isOption arg then .missingValue arg else .unexpectedArgument arg)
  | arg :: value :: args =>
    if isOption arg then do
      let o ← withOption o arg value
      parseOptions o args
    else .error (.unexpectedArgument arg)

namespace Options

def call (o : Options) (target : String) : Call where
  target := target
  attributes := some (Dict.ofList o.attributes)
  arguments := o.arguments

end Options

def isJsonFile (path : String) : Bool :=
  let name := (Text.splitAll '/' path.toList).getLast?.getD []
  match Text.splitFirst? '.' name.reverse with
  | some (ending, before) =>
    !before.isEmpty && Text.eqAsciiCase ending.reverse "json".toList
  | none => false

def readRules {τ : Type} [Source τ] (json : Bool) : Option τ → Except Error RuleSet
  | none => .error (if json then .notJson else .notDocument)
  | some d =>
    match RuleSet.read d with
    | .ok s => .ok s
    | .error e => .error (.wrongShape json e)

def parseRules (path content : String) : Except Error RuleSet :=
  if isJsonFile path then readRules true (Json.parse? content)
  else readRules false (Document.parseOne? content)

variable {m : Type → Type} [Monad m]

def loadRules (read : String → m (Except String String)) (path : String) :
    m (Except Error RuleSet) := do
  match (← read path) with
  | .error reason => pure (.error (.unreadable path reason))
  | .ok content => pure (parseRules path content)

def checkRules (s : RuleSet) : Except Error String :=
  match s.toRules with
  | .error e => .error (.invalidRules e)
  | .ok rules => .ok ("Rules valid (" ++ toString rules.length ++ " rules)\n")

def rehearse (call : Call) : Nat → Injector Conformance.Recording → List String
  | 0, _ => []
  | n + 1, inj =>
    let r := inj.inject call
    (r.decision.describe ++ "\n") :: rehearse call n r.injector

def rehearseRules (s : RuleSet) (o : Options) (target : String) (draws : Draws) :
    Except Error String :=
  match Registry.empty.load s with
  | .error e => .error (.invalidRules e)
  | .ok (_, registry) =>
    let inj := Injector.new Injector.defaultTtl Injector.defaultCapacity
      Conformance.actionTable registry []
    .ok (String.join (rehearse (o.call target) o.repetitions { inj with draws := draws }))

inductive Ending
  | done (output : String)
  | refused (e : Error)
  | crashed (c : Crash)

def Ending.ofExcept : Except Error String → Ending
  | .ok output => .done output
  | .error e => .refused e

def check (read : String → m (Except String String)) : List String → m Ending
  | [path] => do
    match (← loadRules read path) with
    | .ok s => pure (.ofExcept (checkRules s))
    | .error e => pure (.refused e)
  | _ => pure (.refused .checkOperands)

def eval (read : String → m (Except String String)) (draws : Draws) : List String → m Ending
  | [] => pure (.refused .evalOperands)
  | path :: args =>
    match parseOptions {} args with
    | .error e => pure (.refused e)
    | .ok o =>
      match o.target with
      | none => pure (.refused .evalTarget)
      | some target => do
        match (← loadRules read path) with
        | .ok s => pure (.ofExcept (rehearseRules s o target draws))
        | .error e => pure (.refused e)

def evaluate (text : String) (arguments : List Value) : Ending :=
  match (Expressions.evaluate (Cache.empty Injector.defaultTtl Injector.defaultCapacity 0) 0 text
    arguments).1 with
  | .ok v => .done (v.render ++ "\n")
  | .error (.error e) => .refused (.expression e)
  | .error (.crash c) => .crashed c

def expr : List String → Ending
  | [] => .refused .exprOperands
  | text :: args =>
    match parseOptions {} args with
    | .error e => .refused e
    | .ok o =>
      if o.target.isSome || !o.attributes.isEmpty || o.repetitions != 1 then .refused .exprOptions
      else evaluate text o.arguments

def Ending.outcome : Ending → Outcome
  | .done output => ⟨0, output, ""⟩
  | .refused e => ⟨1, "", "error: " ++ e.message ++ "\n"⟩
  | .crashed c => ⟨101, "", c.text.getD "" ++ "\n"⟩

def run (read : String → m (Except String String)) (draws : Draws) : List String → m Outcome
  | [] => pure ⟨1, "", usage⟩
  | command :: args =>
    match command with
    | "check" => return (← check read args).outcome
    | "eval" => return (← eval read draws args).outcome
    | "expr" => pure (expr args).outcome
    | "--help" | "-h" | "help" => pure ⟨0, "", usage⟩
    | command => pure ⟨1, "", "error: unknown command \"" ++ command ++ "\"\n" ++ usage⟩

end FaultInjection.CommandLine
