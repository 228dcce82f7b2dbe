import FaultInjection.Cache.Basic
import FaultInjection.Crash
import FaultInjection.Pattern.Whole
import FaultInjection.Rule.Basic
import FaultInjection.Text.Case

/-!
Matching an observed value against an expected one. Texts are compared without regard to case; a
key that states a pattern is also matched as one; a matcher that the call brings along for a key
takes the place of both.
-/
namespace FaultInjection

structure Matcher where
  plain : String → Value → Except Crash Bool
  pattern : String → Value → Except Crash Bool

inductive Strategy
  | text
  | pattern
  | custom (m : Matcher)
  | customPattern (m : Matcher)

abbrev Patterns := Cache Pattern

def sameText (a b : String) : Bool :=
  Text.lowerEach a.toList == Text.lowerEach b.toList

namespace Patterns

def compile (text : String) : Except Unit Pattern :=
  match Pattern.compileWhole? text with
  | some p => .ok p
  | none => .error ()

def isMatch (ps : Patterns) (now : Nat) (text : String) (observed : Value) : Bool × Patterns :=
  match ps.getOrCompile now text compile with
  | (.ok p, ps) => (p.isMatch observed.render, ps)
  | (.error _, ps) => (false, ps)

end Patterns

namespace Strategy

def of (key : String) (custom : Option Matcher) : Strategy :=
  match custom, Key.isRegex key with
  | some m, true => .customPattern m
  | some m, false => .custom m
  | none, true => .pattern
  | none, false => .text

def isCustom : Strategy → Bool
  | .custom _ | .customPattern _ => true
  | _ => false

theorem isCustom_of (key : String) (custom : Option Matcher) :
    (of key custom).isCustom = custom.isSome := by
  unfold of
  cases custom <;> cases Key.isRegex key <;> rfl

def isMatch (s : Strategy) (ps : Patterns) (now : Nat) (expected observed : Value) :
    Except Crash Bool × Patterns :=
  let text := expected.render
  match s with
  | .text => (.ok (sameText observed.render text), ps)
  | .pattern =>
    if sameText observed.render text then (.ok true, ps)
    else
      let (found, ps) := ps.isMatch now text observed
      (.ok found, ps)
  | .custom m => (m.plain text observed, ps)
  | .customPattern m => (m.pattern text observed, ps)

end Strategy
end FaultInjection
