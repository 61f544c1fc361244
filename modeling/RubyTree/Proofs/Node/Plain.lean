/-
Trees without identities.

A plain tree has the types, scalars and spans of a node and of all nodes below it, and no
identities. Two readings of the same document give different nodes with the same plain tree.
-/

import RubyTree.Node.Basic

namespace RubyTree

/-- A child without identities. -/
inductive Plain where
  | nil
  | sym (name : String)
  | str (text : String)
  | int (i : Int64)
  | float (x : Float)
  | bool (b : Bool)
  | node (type : NodeType) (children : List Plain) (span : Option Span)

mutual

/-- A node without its identity and those below it. -/
def Node.plain : Node → Plain
  | .mk _ type children span => .node type (Child.plains children) span

def Child.plain : Child → Plain
  | .nil => .nil
  | .node n => Node.plain n
  | .sym name => .sym name
  | .str text => .str text
  | .int i => .int i
  | .float x => .float x
  | .bool b => .bool b

def Child.plains : List Child → List Plain
  | [] => []
  | c :: cs => Child.plain c :: Child.plains cs

end

theorem Child.plains_eq_map (cs : List Child) : Child.plains cs = cs.map Child.plain := by
  induction cs with
  | nil => rfl
  | cons c cs ih => rw [Child.plains, List.map_cons, ih]

end RubyTree
