/-
Construction and parents.

A forest gives every constructed node a fresh identity and remembers, for every node, the parent
written last: construction writes the new node as the parent of all its children, and a parent can
be written anew. The newest entry stands first.
-/

import RubyTree.Node.Basic

namespace RubyTree

/-- The identities given so far, and the parents written. -/
structure Forest where
  next : Nat
  parents : List (Nat × Option Node)

namespace Forest

def empty : Forest := ⟨0, []⟩

/-- A new node, which becomes the parent of the nodes among its children. -/
def construct (f : Forest) (type : NodeType) (children : List Child) (span : Option Span) :
    Node × Forest :=
  let n := Node.mk f.next type children span
  (n, ⟨f.next + 1, (children.filterMap Child.node?).map (fun c => (c.id, some n)) ++ f.parents⟩)

/-- Writes the parent of a node. Whether the parent has the node among its children does not
matter. -/
def setParent (f : Forest) (n : Node) (parent : Option Node) : Forest :=
  { f with parents := (n.id, parent) :: f.parents }

/-- The parent of a node that was written last. -/
def lastParent? (f : Forest) (n : Node) : Option Node :=
  (f.parents.lookup n.id).join

end Forest

end RubyTree
