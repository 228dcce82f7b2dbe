namespace FaultInjection

structure Crash where
  text : Option String
  deriving DecidableEq, Repr, Inhabited

def Crash.reason (c : Crash) : String :=
  "panicked: " ++ c.text.getD "unknown panic"

end FaultInjection
