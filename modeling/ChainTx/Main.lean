import ChainTx.CommandLine.Outcome

/-!
Contract: the command-line program.

Owns: the reading of the environment and of files, and the writing of outputs.

Does not own: connections. The program reaches no node, and every exchange fails.
-/

set_option autoImplicit false

namespace ChainTx

/-- The bytes of a file, if it can be read. -/
def readBytes? (path : String) : IO (Option Bytes) := do
  try
    let contents ← IO.FS.readBinFile path
    pure (some contents.toList)
  catch _ => pure none

end ChainTx

open ChainTx

def main (arguments : List String) : IO UInt32 := do
  let configVariable ← IO.getEnv "TXCTL_CONFIG"
  let keyVariable ← IO.getEnv "TXCTL_PRIVATE_KEY"
  let contents ← match CommandLine.read configVariable arguments with
    | .invocation configPath _ => readBytes? configPath
    | _ => pure none
  let environment : Environment := ⟨configVariable, keyVariable, fun _ => contents⟩
  let (outcome, _) := (Outcome.ofArguments environment arguments).run (.initial none)
  IO.print outcome.output
  match outcome.fault with
  | some fault => IO.eprintln ("Error: " ++ fault.shown)
  | none => pure ()
  return UInt32.ofNat outcome.exitCode
