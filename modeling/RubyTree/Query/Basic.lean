/-
Queries: one field at one place of a tree.

Every query of a list is run, in order; one that fails does not hide the others.
-/

import RubyTree.ChildPath
import RubyTree.Log.Event
import RubyTree.Query.Select

namespace RubyTree

/-- A named field at a child path from the root. -/
structure Query where
  id : String
  path : List Nat
  field : String

namespace Query

/-- Why a query has no result. -/
inductive Failure where
  | noNode (path : List Nat)
  | refused (refusal : Refusal)

def Failure.message : Failure → String
  | .noNode path => "no node at path " ++ ChildPath.format path
  | .refused refusal => refusal.message

def run (q : Query) (root : Node) : Except Failure Json :=
  match root.atPath? q.path with
  | none => .error (.noNode q.path)
  | some n => (n.select q.field).mapError .refused

/-- The events of a query on a tree: the refusals met, and the failure. -/
def events (q : Query) (root : Node) : List Log.Event :=
  let refused := match root.atPath? q.path with
    | none => []
    | some n => (n.refusals q.field).map (fun r => Log.Event.fieldRefused r.field r.type)
  match q.run root with
  | .ok _ => refused
  | .error failure => refused ++ [.queryFailed q.id failure.message]

/-- The results of queries on a tree, by their ids. -/
def runAll (queries : List Query) (root : Node) : List (String × Except Failure Json) :=
  queries.map (fun q => (q.id, q.run root))

end Query

end RubyTree
