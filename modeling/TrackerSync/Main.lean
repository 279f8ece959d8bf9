import TrackerSync.Program.Run

/-!
The `tl` command: one command line run on a fresh host built from the process.
-/

open TrackerSync

def tlVariables : List String :=
  ["TRACKLINK_DB", "TL_TEST_DB", "TL_ACTOR", "USER", "TRACKLINK_REMOTE_URL", "TRACKLINK_TOKEN"]

/-- The fresh host a command line runs on: its tracker's server on port 20001, its clock at
the start of 2026. -/
def freshHost : Host := { serverPort := 20001, clock := 1767225600000 }

def main (args : List String) : IO UInt32 := do
  let values ← tlVariables.mapM fun n => do return (n, ← IO.getEnv n)
  let env : Env := fun n => (values.find? (·.1 == n)).bind (·.2)
  let terminal ← (← IO.getStdout).isTty
  let (_, ending) := freshHost.run { env, terminal } args
  IO.print ending.stdout
  IO.eprint ending.stderr
  return (ending.status.getD 130).toUInt32
