/-
Performing commands.

A command returns its report and the events met on the way; the program shows the log of the events
in front of the errors, and what is wrong with the log's filter before anything else.
-/

import RubyTree.Command.Report
import RubyTree.Document.Load
import RubyTree.Log.Line
import RubyTree.Query.Load
import RubyTree.Text.Style

namespace RubyTree

/-- What a program finds around it: its files, its variables, and whether its output has styles. -/
structure Surroundings where
  files : Files
  env : String → Option String
  styled : Bool

namespace Command

open Text (Style)

/-- A value on indented lines, as a report. -/
def printed (v : Json) : Report :=
  .success (v.pretty ++ "\n")

/-- Reads a tree and goes on with its root, or reports why it cannot be read. -/
def withTree (files : Files) (tree : String) (source : Option String)
    (next : Node → Report × List Log.Event) : Report × List Log.Event :=
  match Document.load files tree source with
  | (.error e, events) =>
    (.failure ("failed to load " ++ tree) (e.message :: e.detail?.toList), events)
  | (.ok root, events) =>
    let (report, further) := next root
    (report, events ++ further)

/-- Reads a tree and goes on with the node at a path, or reports why there is none. -/
def withNode (files : Files) (tree : String) (source : Option String) (path : List Nat)
    (next : Node → Report × List Log.Event) : Report × List Log.Event :=
  withTree files tree source (fun root =>
    match root.atPath? path with
    | none => (.failure (Query.Failure.noNode path).message [], [])
    | some n => next n)

/-- Prints a node with its fields by name. -/
def dumpNode (n : Node) : Report × List Log.Event :=
  match n.outline with
  | .ok v => (printed v.toJson, [])
  | .error refusal => (.failure refusal.message [], [])

def getField (styled : Bool) (field : String) (n : Node) : Report × List Log.Event :=
  let events := (n.refusals field).map (fun r => Log.Event.fieldRefused r.field r.type)
  match n.select field with
  | .ok v => (printed v, events)
  | .error refusal =>
    (⟨"", Style.redBold.paint styled "error:" ++ " " ++ refusal.message ++ "\n", 1⟩, events)

/-! ### Query files -/

/-- The line on a query that has a result. -/
def resultLine (styled : Bool) (id : String) (v : Json) : String :=
  Style.green.paint styled "✓" ++ " " ++ id ++ ": " ++ v.compact ++ "\n"

/-- The line on a query that failed. -/
def failureLine (styled : Bool) (id : String) (f : Query.Failure) : String :=
  Style.red.paint styled "✗" ++ " " ++ id ++ ": " ++ f.message ++ "\n"

def resultLines (styled : Bool) (results : List (String × Except Query.Failure Json)) :
    List String :=
  results.filterMap (fun r =>
    match r.2 with
    | .ok v => some (resultLine styled r.1 v)
    | .error _ => none)

def failureLines (styled : Bool) (results : List (String × Except Query.Failure Json)) :
    List String :=
  results.filterMap (fun r =>
    match r.2 with
    | .ok _ => none
    | .error f => some (failureLine styled r.1 f))

def runQueries (styled : Bool) (f : QueryFile) (root : Node) : Report × List Log.Event :=
  let results := Query.runAll f.queries root
  let title := if f.name = "" then "" else Style.bold.paint styled f.name ++ "\n"
  let failures := failureLines styled results
  let count := Style.red.paint styled (toString failures.length)
  let verdict := if failures.isEmpty then "" else "\n  " ++ count ++ " failed\n"
  (⟨title ++ String.join (resultLines styled results), String.join failures ++ verdict,
      if failures.isEmpty then 0 else 1⟩,
    f.queries.flatMap (fun q => q.events root))

/-! ### Types -/

/-- The line on a type: its fields, or that it has none by name. Types without a schema are passed
over unless all are asked for. -/
def typeLine? (styled all : Bool) (t : NodeType) : Option String :=
  match Schema.fields t with
  | some [] => some (Style.bold.paint styled t.tag ++ "\n")
  | some fields => some (Style.bold.paint styled t.tag ++ " " ++ ", ".intercalate fields ++ "\n")
  | none =>
    if all then some (t.tag ++ " " ++ Style.dimmed.paint styled "(children)" ++ "\n") else none

/-! ### Commands -/

def perform (files : Files) (styled : Bool) : Command → Report × List Log.Event
  | .dump tree source path => withNode files tree source path dumpNode
  | .get tree field source path => withNode files tree source path (getField styled field)
  | .value tree source path =>
    withNode files tree source path (fun n => (printed n.literal.toJson, []))
  | .run queries tree source =>
    match QueryFile.load files queries with
    | .error e => (.failure e.message e.causes, [])
    | .ok f =>
      let (report, events) := withTree files tree source (runQueries styled f)
      (report, f.loaded :: events)
  | .types all => (.success (String.join (NodeType.all.filterMap (typeLine? styled all))), [])

end Command

/-- What the program reports for its arguments. It gets no further than a filter that cannot be read
to its end. -/
def program (s : Surroundings) (arguments : List String) : Report :=
  let settings := Log.Settings.ofVariables s.env
  let report : Report :=
    if settings.isReadable then
      match Command.parse arguments with
      | .error stop => .ofStop s.styled stop
      | .ok command =>
        let (report, events) := command.perform s.files s.styled
        report.behind (settings.log events)
    else ⟨"", "", 101⟩
  report.behind settings.warnings

end RubyTree
