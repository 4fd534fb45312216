import Testbed.CommandLine

/-!
The program. It takes its settings from the environment and the file of variables of its
directory. It has no access to a cluster, so it serves to collect manifests.
-/

namespace Testbed.Main

/-- Runs a program by the clock of this machine. Every request fails. -/
def perform {α : Type} (verbose : Bool) : Program Float α → IO (Except (Failure Float) α)
  | .done result => return result
  | .ask _ next =>
    perform verbose (next (.error (.noAccess "Invalid kube-config file. No configuration found.")))
  | .now next => do
    let now ← IO.monoMsNow
    perform verbose (next (now.toFloat / 1000))
  | .isCancelled next => perform verbose (next false)
  | .pause length next => do
    IO.sleep (length * 1000).toUInt32
    perform verbose (next false)
  | .note level message next => do
    if CommandLine.shows verbose level then IO.eprintln message
    perform verbose next

def environment : IO (List (String × String)) := do
  let found ← Settings.Sources.names.mapM fun name => do
    let name := (Settings.Sources.stem ++ name).map Char.toUpper
    return (← IO.getEnv name).map (name, ·)
  return found.filterMap id

def variableFile : IO (Option String) := do
  try
    return some (← IO.FS.readFile ".env")
  catch _ => return none

end Testbed.Main

open Testbed Main in
/-- Runs a command line; the result is the exit code. -/
def main (line : List String) : IO UInt32 := do
  let sources : Settings.Sources := ⟨[], ← environment, ← variableFile⟩
  match ← perform (CommandLine.isVerbose line) (CommandLine.run Console.screen line sources) with
  | .ok (.answered r) | .ok (.ran r) =>
    IO.print r.output
    IO.eprint r.errors
    return r.code.toUInt32
  | .ok (.broke f) => throw (.userError f.message)
  | .error f => throw (.userError f.message)
