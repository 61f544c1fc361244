/-
The command line of the program.
-/

import RubyTree.Command.Perform

namespace RubyTree

/-- The text of a file in the working directory. -/
def textOf (name : String) : IO (Except ReadError String) := do
  try
    return (Content.bytes (← IO.FS.readBinFile name)).read
  catch
    | .noFileOrDirectory .. => return .error .missing
    | .permissionDenied .. => return .error .denied
    | .inappropriateType _ 20 _ => return .error .notDirectory
    | .invalidArgument _ 36 _ => return .error .longName
    | _ => return .error .directory

end RubyTree

open RubyTree

/-- Performs the command that the arguments stand for. -/
def main (arguments : List String) : IO UInt32 := do
  let names := match Command.parse arguments with
    | .ok command => command.files
    | .error _ => []
  let texts ← names.mapM (fun name => return (name, ← textOf name))
  let settings ← ["NODE_EXT_LOG", "RUST_LOG", "NODE_EXT_LOG_FORMAT", "CLICOLOR", "CLICOLOR_FORCE",
    "NO_COLOR"].filterMapM (fun name => return (← IO.getEnv name).map (fun text => (name, text)))
  let env (name : String) : Option String := settings.lookup name
  let isTerminal ← (← IO.getStdout).isTty
  let report := program
    { files := fun name => (texts.lookup name).getD (.error .missing)
      env := env
      styled := Text.Style.enabled isTerminal env } arguments
  IO.print report.out
  IO.eprint report.err
  return report.exit.toUInt32
