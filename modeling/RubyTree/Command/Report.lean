/-
Reports: what a command writes, and how it ends.
-/

import RubyTree.Command.Arguments

namespace RubyTree

/-- The texts of the two outputs, and the exit code. -/
structure Report where
  out : String
  err : String
  exit : Nat
deriving DecidableEq

namespace Report

def success (out : String) : Report := ⟨out, "", 0⟩

/-- The lines of a cause: its first line behind a mark, the further ones indented. -/
def causeLines (mark indent : String) (cause : String) : List String :=
  match cause.splitOn "\n" with
  | [] => [mark]
  | first :: rest => (mark ++ first) :: rest.map (indent ++ ·)

/-- The lines of causes, each with its number. -/
def numbered (n : Nat) : List String → List String
  | [] => []
  | cause :: rest =>
    causeLines ("    " ++ toString n ++ ": ") "       " cause ++ numbered (n + 1) rest

/-- The lines about the causes of an error. A single cause has no number. -/
def causes : List String → List String
  | [] => []
  | [cause] => "" :: "Caused by:" :: causeLines "    " "    " cause
  | several => "" :: "Caused by:" :: numbered 0 several

/-- A report of an error with what is behind it, the nearest cause first. -/
def failure (message : String) (reasons : List String) : Report :=
  ⟨"", String.join ((("Error: " ++ message) :: causes reasons).map (· ++ "\n")), 1⟩

/-- A report on arguments that are no command. -/
def ofStop (styled : Bool) : Command.Stop → Report
  | .help v? => success (Command.help v?)
  | .version => success (Command.programName ++ " " ++ Command.programVersion ++ "\n")
  | .refused v? c => ⟨"", c.text styled v?, 2⟩

/-- A report with a text in front of the errors. -/
def behind (r : Report) (text : String) : Report :=
  { r with err := text ++ r.err }

end Report

end RubyTree
