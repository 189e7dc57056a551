import Std.Time.DateTime.Timestamp
import TenantReports.Cli.Commands

/-!
# The program

Files are read where they are; reports, runs and schedules are held in memory.

## Main definitions

* `main`: the command line
-/

namespace TenantReports.Cli

/-- What comes of reading a file. A path that goes on after a file leads nowhere. -/
def readFile (path : String) : IO FileRead := do
  let notDirectory : UInt32 := 20
  try
    return .text (← IO.FS.readFile path)
  catch
    | .noFileOrDirectory .. => return .missing
    | .inappropriateType _ code _ =>
      return if code == notDirectory then .missing else .unreadable
    | _ => return .unreadable

/-- The directory of the user's configuration. -/
def configDir : IO (Option String) := do
  match ← IO.getEnv "XDG_CONFIG_HOME", ← IO.getEnv "HOME" with
  | some dir, home =>
    return if dir.startsWith "/" then some dir else home.map (joinPath · ".config")
  | none, home => return home.map (joinPath · ".config")

/-- What a command finds. -/
def shell : IO (Shell IO) := do
  let now := (← Std.Time.Timestamp.now).val
  return {
    env := fun name => IO.getEnv name
    read := readFile
    opens := fun _ _ => return true
    userFile := (← configDir).map (joinPath · "quarry/config.toml")
    now := ⟨now.second.val, now.nano.val.toNat⟩ }

/-- Runs a command line, again and again if it asks for it. -/
partial def serve (args : List String) : IO UInt32 := do
  let outcome ← run (← shell) args
  IO.print outcome.out
  IO.eprint outcome.err
  match outcome.again with
  | none => return outcome.status.toUInt32
  | some secs =>
    IO.sleep (secs * 1000).toUInt32
    serve args

end TenantReports.Cli

/-- The command line. -/
def main (args : List String) : IO UInt32 := TenantReports.Cli.serve args
