/-
Reading query files.

Only valid query files are read; reading one is an event.
-/

import RubyTree.Files
import RubyTree.Query.File
import RubyTree.Toml.Reader

namespace RubyTree.QueryFile

/-- Why a text is no query file. -/
inductive Fault where
  | notToml
  | invalid (issues : List Issue)

def Fault.message : Fault → String
  | .notToml => "query file is not valid TOML"
  | .invalid issues => "invalid query file: " ++ Issue.messages issues

/-- Why a query file could not be read. -/
inductive Error where
  | unreadable (path : String) (cause : ReadError)
  | faulty (path : String) (fault : Fault)

namespace Error

def message : Error → String
  | .unreadable path cause => "failed to read query file " ++ path ++ ": " ++ cause.message
  | .faulty path fault => path ++ ": " ++ fault.message

/-- The wordings of what is behind an error, the nearest first. -/
def causes : Error → List String
  | .unreadable _ cause => [cause.message]
  | .faulty _ (.invalid issues) => [Fault.message (.invalid issues), Issue.messages issues]
  | .faulty _ .notToml => [Fault.message .notToml]

end Error

def readText (text : String) : Except Fault QueryFile :=
  match (Toml.read text).bind ofEntries? with
  | none => .error .notToml
  | some f =>
    match f.issues with
    | [] => .ok f
    | issues => .error (.invalid issues)

def load (files : Files) (path : String) : Except Error QueryFile :=
  match files path with
  | .error cause => .error (.unreadable path cause)
  | .ok text => (readText text).mapError (.faulty path)

/-- The event of having read a query file. -/
def loaded (f : QueryFile) : Log.Event :=
  .queriesLoaded f.name f.queries.length

end RubyTree.QueryFile
