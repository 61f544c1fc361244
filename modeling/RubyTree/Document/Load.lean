/-
Reading trees from texts and files.

Every reading returns its events beside its result: one for each node built, also before a fault,
and one for the whole tree when there is none.
-/

import RubyTree.Document.Builder
import RubyTree.Files
import RubyTree.Json.Reader
import RubyTree.Log.Event

namespace RubyTree.Document

/-- Why a tree could not be read. -/
inductive Error where
  | notJson (text : String) (fault : Json.Fault)
  | notTree (fault : Fault)
  | unreadable (path : String) (cause : ReadError)

namespace Error

/-- The wording of what is behind an error, when it is not the error itself. -/
def detail? : Error → Option String
  | .notJson text fault => some (fault.message text)
  | .notTree _ => none
  | .unreadable _ cause => some cause.message

def message : Error → String
  | .notJson text fault => "invalid JSON: " ++ fault.message text
  | .notTree fault => fault.message
  | .unreadable path cause => "I/O error reading " ++ path ++ ": " ++ cause.message

end Error

/-- The events of a reading that ended with a builder and a result. -/
def events (result : Except Fault Node) (b : Builder) : List Log.Event :=
  let built := b.built.reverse.map (fun n => Log.Event.nodeBuilt n.1 n.2)
  match result with
  | .ok root => built ++ [.treeRead b.nodes root.type]
  | .error _ => built

def readText (text : String) (source : Option Buffer) (forest : Forest) :
    Except Error (Node × Forest) × List Log.Event :=
  match Json.read text with
  | .error fault => (.error (.notJson text fault), [])
  | .ok v =>
    let (result, b) := build v source forest
    match result with
    | .ok root => (.ok (root, b.forest), events result b)
    | .error fault => (.error (.notTree fault), events result b)

/-- Reads the tree file `treePath`, whose ranges refer to the file `sourcePath`. Both files are read
before the tree is looked at. -/
def load (files : Files) (treePath : String) (sourcePath : Option String) :
    Except Error Node × List Log.Event :=
  match files treePath with
  | .error cause => (.error (.unreadable treePath cause), [])
  | .ok text =>
    let source : Except Error (Option Buffer) := match sourcePath with
      | none => .ok none
      | some path =>
        match files path with
        | .error cause => .error (.unreadable path cause)
        | .ok sourceText => .ok (some ⟨0, some path, sourceText⟩)
    match source with
    | .error e => (.error e, [])
    | .ok buffer =>
      let (result, events) := readText text buffer .empty
      (result.map Prod.fst, events)

end RubyTree.Document
