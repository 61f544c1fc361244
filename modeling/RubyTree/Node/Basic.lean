/-
Syntax trees.

A node has a type, a list of children and, when it was read with a range, a span. A child is absent
(`nil`), a scalar, or a node. Every node has an identity that is given when it is constructed, after
its children; a node that stands in several places of a tree has the same identity in all of them.
Equality of nodes (`==`) is structural: it compares types and children, and neither identities nor
spans.
-/

import RubyTree.NodeType
import RubyTree.Source

namespace RubyTree

mutual

/-- A node of a syntax tree. -/
inductive Node where
  | mk (id : Nat) (type : NodeType) (children : List Child) (span : Option Span)

/-- One positional slot of a node. -/
inductive Child where
  | nil
  | node (n : Node)
  | sym (name : String)
  | str (text : String)
  | int (i : Int64)
  | float (x : Float)
  | bool (b : Bool)

end

namespace Node

def id : Node → Nat
  | .mk id _ _ _ => id

def type : Node → NodeType
  | .mk _ type _ _ => type

def children : Node → List Child
  | .mk _ _ children _ => children

def span : Node → Option Span
  | .mk _ _ _ span => span

def source? (n : Node) : Option String :=
  n.span.map Span.source

/-- The child at an index, `nil` when the node is shorter. -/
def child (n : Node) (i : Nat) : Child :=
  n.children.getD i .nil

/-- The last child, `nil` when there is none. -/
def lastChild (n : Node) : Child :=
  n.children.getLastD .nil

def same (a b : Node) : Bool :=
  a.id == b.id

end Node

namespace Child

def node? : Child → Option Node
  | .node n => some n
  | _ => none

def symbol? : Child → Option String
  | .sym name => some name
  | _ => none

def string? : Child → Option String
  | .str text => some text
  | _ => none

def isNil : Child → Bool
  | .nil => true
  | _ => false

def type? (c : Child) : Option NodeType :=
  c.node?.map Node.type

def isType (c : Child) (type : NodeType) : Bool :=
  c.type? == some type

end Child

/-! ### Structural equality -/

mutual

/-- Structural equality of nodes, with floating point numbers compared by `eq`. -/
def Node.beqBy (eq : Float → Float → Bool) : Node → Node → Bool
  | .mk _ t cs _, .mk _ t' cs' _ => t == t' && Child.beqListBy eq cs cs'

def Child.beqBy (eq : Float → Float → Bool) : Child → Child → Bool
  | .nil, .nil => true
  | .node a, .node b => Node.beqBy eq a b
  | .sym a, .sym b => a == b
  | .str a, .str b => a == b
  | .int a, .int b => a == b
  | .float a, .float b => eq a b
  | .bool a, .bool b => a == b
  | _, _ => false

def Child.beqListBy (eq : Float → Float → Bool) : List Child → List Child → Bool
  | [], [] => true
  | a :: as, b :: bs => Child.beqBy eq a b && Child.beqListBy eq as bs
  | _, _ => false

end

instance : BEq Node := ⟨Node.beqBy (· == ·)⟩

instance : BEq Child := ⟨Child.beqBy (· == ·)⟩

/-! ### Descent -/

/-- The node at a list of child indices. An index that is out of range or leads to a scalar gives
nothing. -/
def Node.atPath? (n : Node) : List Nat → Option Node
  | [] => some n
  | i :: path => (n.children[i]?).bind (fun c => c.node?.bind (fun m => m.atPath? path))

mutual

/-- The nodes at and below a node, each before those below it, with the indices that lead there. -/
def Node.walk (path : List Nat) : Node → List (List Nat × Node)
  | .mk id t cs s => (path, .mk id t cs s) :: Child.walkList path 0 cs

/-- The nodes at and below the children of a node from the index `i` on. -/
def Child.walkList (path : List Nat) (i : Nat) : List Child → List (List Nat × Node)
  | [] => []
  | c :: cs => Child.walk (path ++ [i]) c ++ Child.walkList path (i + 1) cs

def Child.walk (path : List Nat) : Child → List (List Nat × Node)
  | .node n => Node.walk path n
  | _ => []

end

/-- The nodes at and below a node, each before those below it. -/
def Node.subnodes (n : Node) : List Node :=
  (n.walk []).map Prod.snd

def Node.size (n : Node) : Nat :=
  n.subnodes.length

end RubyTree
