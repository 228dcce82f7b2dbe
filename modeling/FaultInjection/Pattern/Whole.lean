import FaultInjection.Pattern.Matcher
import FaultInjection.Pattern.Reader
import FaultInjection.Pattern.Size
import FaultInjection.Text.Bytes

/-!
Patterns for whole values. The text of a pattern is put between anchors before it is read, so
parentheses in it that are not balanced reach beyond the anchors.
-/
namespace FaultInjection.Pattern

def maxLength : Nat := 4096

def compile? (s : String) : Option Pattern := do
  let r ← Regex.parse? s
  let plan ← r.plan Regex.maxHeight
  if plan.fits then r.pattern else none

def anchored (s : String) : String :=
  "^(?:" ++ s ++ ")$"

def compileWhole? (s : String) : Option Pattern :=
  if maxLength < Text.byteSize s.toList then none else compile? (anchored s)

end FaultInjection.Pattern
