/-
Query files: named lists of queries.

A query file is valid when it has a query and no issue is found in any of its queries. Ids and
fields are judged without the white space around them, and an id may be used once.
-/

import RubyTree.Query.Basic
import RubyTree.Text.Blank
import RubyTree.Toml.Basic

namespace RubyTree

/-- A list of queries with a name. -/
structure QueryFile where
  name : String
  description : Option String
  queries : List Query

namespace QueryFile

/-! ### Validation -/

/-- What is wrong with a query file. -/
inductive Issue where
  | noQueries
  | missing (id : Option String) (field : String)
  | repeated (id : String)
deriving DecidableEq

def Issue.message : Issue → String
  | .noQueries => "query file contains no queries"
  | .missing (some id) field => "query '" ++ id ++ "' missing required field '" ++ field ++ "'"
  | .missing none field => "query missing required field '" ++ field ++ "'"
  | .repeated id => "query id '" ++ id ++ "' is used more than once"

/-- The wording of several issues, one a line. -/
def Issue.messages (issues : List Issue) : String :=
  "\n".intercalate (issues.map Issue.message)

/-- The issues with the id of a query, when earlier queries have the ids `seen`. -/
def idIssues (seen : List String) (id : String) : List Issue :=
  if id = "" then [.missing none "id"]
  else if id ∈ seen then [.repeated id]
  else []

def fieldIssues (id field : String) : List Issue :=
  if field = "" then [.missing (if id = "" then none else some id) "field"] else []

/-- The issues with queries, when earlier queries have the ids `seen`. -/
def issuesAfter (seen : List String) : List Query → List Issue
  | [] => []
  | q :: qs =>
    let id := Text.trim q.id
    idIssues seen id ++ fieldIssues id (Text.trim q.field) ++ issuesAfter (id :: seen) qs

def issues (f : QueryFile) : List Issue :=
  if f.queries.isEmpty then [.noQueries] else issuesAfter [] f.queries

/-! ### Decoding -/

/-- The list that a value stands for, item by item. A list may be left out. -/
def list? {α : Type} (item? : Toml.Value → Option α) : Option Toml.Value → Option (List α)
  | none => some []
  | some v => v.items?.bind (fun items => items.mapM item?)

/-- The query that a value stands for. The path may be left out. -/
def query? (v : Toml.Value) : Option Query := do
  let members ← v.members? ["id", "path", "field"]
  let id ← (← members.lookup "id").text?
  let path ← list? Toml.Value.natural? (members.lookup "path")
  let field ← (← members.lookup "field").text?
  some ⟨id, path, field⟩

/-- The name and description that a value stands for. Both may be left out. -/
def heading? (v : Toml.Value) : Option (String × Option String) := do
  let members ← v.members? ["name", "description"]
  let name ← match members.lookup "name" with
    | none => some ""
    | some n => n.text?
  let description ← match members.lookup "description" with
    | none => some none
    | some d => d.text?.map some
  some (name, description)

/-- The query file that a document stands for. Entries with other keys are passed over. -/
def ofEntries? (entries : Toml.Entries) : Option QueryFile := do
  let (name, description) ← (entries.lookup "meta").elim (some ("", none)) heading?
  let queries ← list? query? (entries.lookup "queries")
  some ⟨name, description, queries⟩

end QueryFile

end RubyTree
