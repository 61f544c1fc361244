/-
Nodes held by handles.

A store holds nodes under names. A node is live when it is reached from a held node through
children; a parent that is not live any more is nobody's parent. Parents never keep a node alive.
-/

import RubyTree.Document.Load
import RubyTree.Node.Forest

namespace RubyTree

/-- The named nodes, the forest that they belong to, and the number of buffers made. -/
structure Store where
  handles : List (String × Node)
  forest : Forest
  buffers : Nat

namespace Store

def empty : Store := ⟨[], .empty, 0⟩

/-! ### Handles -/

def node? (s : Store) (name : String) : Option Node :=
  s.handles.lookup name

def drop (s : Store) (name : String) : Store :=
  { s with handles := s.handles.filter (fun h => h.1 != name) }

/-- The store with a node under a name, in place of the one before. -/
def bind (s : Store) (name : String) (n : Node) : Store :=
  { s with handles := (name, n) :: (s.drop name).handles }

/-- The names of a node, in order. -/
def names (s : Store) (n : Node) : List String :=
  ((s.handles.filter (fun h => h.2.same n)).map Prod.fst).mergeSort (fun a b => decide (a ≤ b))

/-! ### Parents -/

/-- Whether a node is reached from a held one through children. -/
def isLive (s : Store) (n : Node) : Bool :=
  s.handles.any (fun h => h.2.subnodes.any (fun m => m.same n))

/-- The parent of a node: the one written last, while it is live. -/
def parent? (s : Store) (n : Node) : Option Node :=
  (s.forest.lastParent? n).filter s.isLive

/-- The children behind the first occurrence of a node. -/
def after? (n : Node) : List Child → Option (List Child)
  | [] => none
  | .node m :: rest => if m.same n then some rest else after? n rest
  | _ :: rest => after? n rest

/-- The children of the parent behind a node; nothing without a parent, or when the parent does not
have the node among its children. -/
def siblings? (s : Store) (n : Node) : Option (List Child) :=
  (s.parent? n).bind (fun p => after? n p.children)

/-- The parent of a node, its parent and so on, at most `limit` of them. -/
def ancestors (s : Store) : Nat → Node → List Node
  | 0, _ => []
  | limit + 1, n =>
    match s.parent? n with
    | none => []
    | some p => p :: s.ancestors limit p

def setParent (s : Store) (n : Node) (parent : Option Node) : Store :=
  { s with forest := s.forest.setParent n parent }

/-! ### Construction -/

def buffer (s : Store) (text : String) : Buffer × Store :=
  (⟨s.buffers, none, text⟩, { s with buffers := s.buffers + 1 })

/-- Constructs a node and binds it to a name. -/
def construct (s : Store) (name : String) (type : NodeType) (children : List Child)
    (span : Option Span) : Node × Store :=
  let (n, forest) := s.forest.construct type children span
  (n, { s with forest := forest }.bind name n)

/-- Reads a tree and binds its root to a name. -/
def load (s : Store) (name : String) (text : String) (source : Option String) :
    Except Document.Error (Node × Store) :=
  let (buffer?, s') : Option Buffer × Store := match source with
    | none => (none, s)
    | some sourceText =>
      let (b, s') := s.buffer sourceText
      (some b, s')
  match (Document.readText text buffer? s'.forest).1 with
  | .error e => .error e
  | .ok (n, forest) => .ok (n, { s' with forest := forest }.bind name n)

end Store

end RubyTree
