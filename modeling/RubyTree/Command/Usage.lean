/-
How commands are used: the help, and the complaints about arguments.
-/

import RubyTree.Command.Basic
import RubyTree.Text.Style
import RubyTree.Text.Terminal

namespace RubyTree.Command

open Text (Style)

def programName : String := "node-ext"

def programVersion : String := "0.1.0"

/-! ### Help -/

def summary : Verb → String
  | .dump => "Print a node and everything below it as named fields"
  | .get => "Read one field of a node"
  | .value => "Print the literal value of a node"
  | .run => "Run every query in a query file"
  | .types => "List node types and their fields"

def operandSummary : Operand → String
  | .tree => "JSON tree produced by the parser"
  | .field => "Field name, or a hash lookup such as `foo_value`"
  | .queries => "TOML query file"

def switchSummary : Switch → String
  | .source => "Ruby source the tree's ranges point into"
  | .path => "Child indices from the root, e.g. `0.2` [default: .]"
  | .all => "Also list types without a field schema"
  | .help => "Print help"
  | .version => "Print version"

def usageLine : Option Verb → String
  | none => "Usage: " ++ programName ++ " <COMMAND>"
  | some v =>
    " ".intercalate
      (["Usage: " ++ programName, v.word, "[OPTIONS]"] ++ v.operands.map Operand.label)

/-- Rows of two columns, indented; the first column is as wide as its widest entry. -/
def table (rows : List (String × String)) : List String :=
  let width := (rows.map (fun r => r.1.length)).foldl max 0
  rows.map (fun r =>
    "  " ++ r.1 ++ String.ofList (List.replicate (width - r.1.length + 2) ' ') ++ r.2)

def switchRows (switches : List Switch) : List (String × String) :=
  switches.map (fun s => ("-" ++ String.singleton s.short ++ ", " ++ s.label, switchSummary s))

/-- A titled part of the help, behind an empty line; nothing when it has no rows. -/
def titled (title : String) (rows : List (String × String)) : List String :=
  if rows.isEmpty then [] else "" :: (title ++ ":") :: table rows

/-- The help on a command, or on the program. -/
def help (v? : Option Verb) : String :=
  let lines := match v? with
    | none => ["Query Ruby parser syntax trees by field name", "", usageLine none]
      ++ titled "Commands" (Verb.all.map (fun v : Verb => (v.word, summary v))
          ++ [("help", "Print this message or the help of the given subcommand(s)")])
      ++ titled "Options" (switchRows [.help, .version])
    | some v => [summary v, "", usageLine (some v)]
      ++ titled "Arguments" (v.operands.map (fun o : Operand => (o.label, operandSummary o)))
      ++ titled "Options" (switchRows v.switches)
  String.join (lines.map (· ++ "\n"))

/-! ### Complaints -/

/-- What is wrong with the arguments. -/
inductive Complaint where
  | noCommand
  | unknownCommand (word : String)
  | unexpected (argument : String)
  | missing (operands : List Operand)
  | noValue (label : String)
  | surplusValue (text : String) (s : Switch)
  | repeated (s : Switch)
  | badPath (text : String) (part : String)
deriving DecidableEq

/-- A word to be given as it is. -/
def literal (word : String) : String :=
  Style.wrap [.bold] word

/-- A word that was given and is not accepted. -/
def invalid (word : String) : String :=
  Style.wrap [.yellow] word

/-- What a complaint says, and whether the form of the command follows it. -/
def Complaint.wording : Complaint → String × Bool
  | .noCommand =>
    ("'" ++ literal programName ++ "' requires a subcommand but one was not provided", true)
  | .unknownCommand word => ("unrecognized subcommand '" ++ invalid word ++ "'", true)
  | .unexpected argument => ("unexpected argument '" ++ invalid argument ++ "' found", true)
  | .missing operands =>
    ("the following required arguments were not provided:"
      ++ String.join (operands.map (fun o => "\n  " ++ o.label)), true)
  | .noValue label =>
    ("a value is required for '" ++ literal label ++ "' but none was supplied", false)
  | .surplusValue text s =>
    ("unexpected value '" ++ invalid text ++ "' for '" ++ literal s.label
      ++ "' found; no more were expected", true)
  | .repeated s =>
    ("the argument '" ++ literal s.label ++ "' cannot be used multiple times", true)
  | .badPath text part =>
    ("invalid value '" ++ invalid text ++ "' for '" ++ literal Switch.path.label ++ "': `" ++ part
      ++ "` is not a child index", false)

/-- The text of a complaint about the arguments of a command, or of the program, in its styles. -/
def Complaint.styledText (c : Complaint) (v? : Option Verb) : String :=
  let (wording, hasUsage) := c.wording
  Style.wrap [.bold, .red] "error:" ++ " " ++ wording ++ "\n\n"
    ++ (if hasUsage then usageLine v? ++ "\n\n" else "")
    ++ "For more information, try '" ++ literal "--help" ++ "'.\n"

/-- The text of a complaint. Without styles it is what a terminal shows, so that sequences in the
arguments are dropped too. -/
def Complaint.text (styled : Bool) (c : Complaint) (v? : Option Verb) : String :=
  if styled then c.styledText v? else Text.Terminal.visible (c.styledText v?)

end RubyTree.Command
