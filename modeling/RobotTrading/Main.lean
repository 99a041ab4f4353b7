import RobotTrading.Service.Daemon

/-!
# The daemon command line

The daemon reads its configuration from the environment variables that
`Config.variables` names. A refused configuration is reported on the error
stream with exit code 1. Otherwise the daemon prints its startup line and runs
until its shutdown signal, the end of standard input. Its store starts empty,
so it subscribes to no symbol and trades nothing.
-/

open RobotTrading

/-- The configuration variables set in the environment, in the order they are read. -/
def readVariables : IO (List (String × String)) :=
  Config.variables.filterMapM fun k => do
    let v ← IO.getEnv k
    pure (v.map fun x => (k, x))

/-- Wait until standard input ends. -/
partial def awaitShutdown (input : IO.FS.Stream) : IO Unit := do
  let line ← input.getLine
  if line.isEmpty then pure () else awaitShutdown input

/-- Load the configuration, start, and stop at the end of standard input. -/
def main : IO UInt32 := do
  let set ← readVariables
  match Config.load (Config.lookupIn set) with
  | .error e =>
    IO.eprintln ("Error: " ++ (DaemonError.config e).message)
    pure 1
  | .ok c =>
    IO.println (Service.startupLine c)
    awaitShutdown (← IO.getStdin)
    IO.println "Received shutdown signal"
    pure 0
