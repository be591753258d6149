import DashboardHarness.Cli.Run

/-!
# The program

Reads the environment variables the program knows of, runs the command line and writes what the
run wrote. Runs that start a browser, serve or keep probing need a browser or a network, which
this build does not carry; they end with a message saying so.
-/

open DashboardHarness.Cli

/-- The environment variables a run reads. -/
def knownVariables : List String :=
  environmentFlags.map (·.1) ++
    ["GIN_MODE", "DASHPROBE_COMPLETION_DESCRIPTIONS", "COBRA_COMPLETION_DESCRIPTIONS"]

/-- Runs the program. -/
def main (args : List String) : IO UInt32 := do
  let mut env : List (String × String) := []
  for key in knownVariables do
    if let some value ← IO.getEnv key then
      env := env ++ [(key, value)]
  let lookup := fun key => (env.find? (·.1 == key)).map (·.2)
  match run lookup args with
  | .finished code output errors =>
    IO.print output
    IO.eprint errors
    return code.toUInt32
  | .launchesBrowser =>
    IO.eprintln "launch browser: no browser driver is available in this build"
    return 1
  | .serves address =>
    IO.eprintln ("start fixture: serving on " ++ address ++ " is not available in this build")
    return 1
  | .watches =>
    IO.eprintln "probe: watching is not available in this build"
    return 1
