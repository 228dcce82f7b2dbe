import FaultInjection.Matching.Strategy
import FaultInjection.Text.Space
import FaultInjection.Text.Split

namespace FaultInjection.Conformance

def hasPair (observed : List (String × Value)) (pair : List Char) : Bool :=
  match Text.splitFirst? '=' pair with
  | none => false
  | some (k, v) =>
    (Entries.get? (String.ofList (Text.trimChars k)) observed).any fun w =>
      w.render == String.ofList (Text.trimChars v)

/-- Matches a map that has all of the pairs, which are set apart by commas. As a pattern, it
matches a map with entries whose values all match. -/
def subset : Matcher where
  plain expected observed :=
    .ok (match observed.asMap? with
      | none => false
      | some entries =>
        (((Text.splitAll ',' expected.toList).map Text.trimChars).filter (!·.isEmpty)).all
          (hasPair entries))
  pattern text observed :=
    .ok (match Pattern.compileWhole? text, observed.asMap? with
      | some p, some entries =>
        !entries.isEmpty && entries.all fun e => p.isMatch e.2.render
      | _, _ => false)

def constant (verdict : Bool) : Matcher where
  plain _ _ := .ok verdict
  pattern _ _ := .ok verdict

def matcher? : String → Option Matcher
  | "subset" => some subset
  | "always" => some (constant true)
  | "never" => some (constant false)
  | _ => none

end FaultInjection.Conformance
