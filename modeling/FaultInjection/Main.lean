import FaultInjection.CommandLine

namespace FaultInjection

def readFile (path : String) : IO (Except String String) := do
  try
    return .ok (← IO.FS.readFile path)
  catch
    | .noFileOrDirectory .. => return .error "No such file or directory (os error 2)"
    | e => return .error (toString e)

def seededDraws (seed : Nat) : Draws :=
  ⟨fun i => (randNat (mkStdGen (seed + i)) 1 100).1, 0⟩

end FaultInjection

def main (args : List String) : IO UInt32 := do
  let seed ← IO.rand 0 1000000000
  let outcome ← FaultInjection.CommandLine.run FaultInjection.readFile
    (FaultInjection.seededDraws seed) args
  IO.print outcome.output
  IO.eprint outcome.errors
  return outcome.exit.toUInt32
