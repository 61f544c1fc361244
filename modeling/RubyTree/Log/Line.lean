/-
Log lines.

An event is shown as one line, of plain text or of JSON.
-/

import RubyTree.Json.Printer
import RubyTree.Log.Filter
import RubyTree.Text.Quoted

namespace RubyTree.Log

/-- How events are shown. -/
inductive Format where
  | text
  | json
deriving DecidableEq

/-- The format that a word stands for; any word but one is plain text. -/
def Format.ofText (word : String) : Format :=
  if word.toLower = "json" then .json else .text

def Value.text : Value → String
  | .count n => toString n
  | .bare s => s
  | .quoted s => Text.quote s

def Value.json : Value → Json
  | .count n => .num (.int n)
  | .bare s => .str s
  | .quoted s => .str s

namespace Event

def text (e : Event) : String :=
  e.level.name ++ " " ++ e.target ++ ": " ++ e.message
    ++ String.join (e.fields.map (fun f => " " ++ f.1 ++ "=" ++ f.2.text))

def json (e : Event) : Json :=
  .obj [("level", .str e.level.name),
    ("fields", .obj (("message", .str e.message) :: e.fields.map (fun f => (f.1, f.2.json)))),
    ("target", .str e.target)]

def line (e : Event) : Format → String
  | .text => e.text
  | .json => e.json.compact

end Event

/-- Which events are shown, as the text of a filter, and how. Without a filter there is no log. -/
structure Settings where
  filter : Option String
  format : Format

namespace Settings

/-- The settings that variables stand for. The variable of this program goes before the common
one. -/
def ofVariables (env : String → Option String) : Settings where
  filter := (env "NODE_EXT_LOG").or (env "RUST_LOG")
  format := Format.ofText ((env "NODE_EXT_LOG_FORMAT").getD "")

def log (s : Settings) (events : List Event) : String :=
  match s.filter with
  | none => ""
  | some text =>
    let f := Filter.ofText text
    String.join ((events.filter f.admits).map (fun e => e.line s.format ++ "\n"))

/-- Whether the filter can be read to its end. -/
def isReadable (s : Settings) : Bool :=
  s.filter.all Filter.isReadable

/-- The warnings about the filter, one a line. -/
def warnings (s : Settings) : String :=
  match s.filter with
  | none => ""
  | some text => String.join ((Filter.warnings text).map (fun w => w ++ "\n"))

end Settings

end RubyTree.Log
