/-
  NodeClient.Main
  ───────────────
  The command line of the probe: reads the arguments and the environment, and tells which node
  would be polled, and how.
-/
import NodeClient.Probe.Arguments

namespace NodeClient.Probe

/-- The values that the options have in the environment. -/
def readEnvironment : IO (String → Option String) := do
  let values ← Flag.all.mapM fun f => do return (f.variableName, ← IO.getEnv f.variableName)
  return fun name => (values.lookup name).join

end NodeClient.Probe

open NodeClient.Probe

def main (args : List String) : IO UInt32 := do
  match Arguments.parse args (← readEnvironment) with
  | .error .help =>
      IO.println ArgumentError.help.message
      return 0
  | .error e =>
      IO.eprintln ("error: " ++ e.message)
      return 2
  | .ok a =>
      match a.settings.build with
      | .error e =>
          IO.eprintln ("Error: Parsing client configuration: " ++ e.message)
          return 1
      | .ok c =>
          IO.println ("address " ++ c.address)
          IO.println ("timeout " ++ toString a.timeoutSecs ++ " s")
          IO.println ("poll every " ++ toString a.pollSecs ++ " s")
          return 0
