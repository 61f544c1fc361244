/-
Literal values.

A literal node stands for a plain value. Coercion never fails: whatever is not a literal, such as a
call, a variable or a sequence of statements, stands for itself (`Literal.node`).
-/

import RubyTree.Json.Basic
import RubyTree.Node.Sexp

namespace RubyTree

/-- The value that a node or a child stands for. -/
inductive Literal where
  | nil
  | bool (b : Bool)
  | int (i : Int64)
  | float (x : Float)
  | str (text : String)
  | sym (name : String)
  | array (items : List Literal)
  | range (first last : Literal) (exclusive : Bool)
  | node (n : Node)

/-- The value of a node, given the values of its children. Scalar literals have the value of their
last child, an array those of all of them, a range those of the first two, and a parenthesised
expression that of its only one. -/
def Node.literalOf (n : Node) (values : List Literal) : Literal :=
  match n.type with
  | .intLit | .floatLit | .strLit | .symLit | .rationalLit | .complexLit => values.getLastD .nil
  | .trueLit => .bool true
  | .falseLit => .bool false
  | .nilLit => .nil
  | .arrayLit => .array values
  | .irange => .range (values.getD 0 .nil) (values.getD 1 .nil) false
  | .erange => .range (values.getD 0 .nil) (values.getD 1 .nil) true
  | .beginSeq | .kwbegin =>
    match values with
    | [v] => v
    | _ => .node n
  | _ => .node n

mutual

def Node.literal : Node → Literal
  | .mk id type children span =>
    Node.literalOf (.mk id type children span) (Child.literals children)

def Child.literal : Child → Literal
  | .nil => .nil
  | .node n => Node.literal n
  | .sym name => .sym name
  | .str text => .str text
  | .int i => .int i
  | .float x => .float x
  | .bool b => .bool b

def Child.literals : List Child → List Literal
  | [] => []
  | c :: cs => Child.literal c :: Child.literals cs

end

namespace Literal

def isNil : Literal → Bool
  | .nil => true
  | _ => false

/-- Whether a value counts as true: all but nil and false. -/
def isTruthy : Literal → Bool
  | .nil => false
  | .bool b => b
  | _ => true

mutual

/-- Equality of values, with floating point numbers compared by `eq`; nodes among the values are
compared structurally. -/
def beqBy (eq : Float → Float → Bool) : Literal → Literal → Bool
  | .nil, .nil => true
  | .bool a, .bool b => a == b
  | .int a, .int b => a == b
  | .float a, .float b => eq a b
  | .str a, .str b => a == b
  | .sym a, .sym b => a == b
  | .array as, .array bs => beqListBy eq as bs
  | .range a a' x, .range b b' y => beqBy eq a b && beqBy eq a' b' && x == y
  | .node a, .node b => a.beqBy eq b
  | _, _ => false

def beqListBy (eq : Float → Float → Bool) : List Literal → List Literal → Bool
  | [], [] => true
  | a :: as, b :: bs => beqBy eq a b && beqListBy eq as bs
  | _, _ => false

end

instance : BEq Literal := ⟨beqBy (· == ·)⟩

mutual

/-- A value as JSON: symbols are strings, a range is an object, and a node is its s-expression. -/
def toJson : Literal → Json
  | .nil => .null
  | .bool b => .bool b
  | .int i => .num (.int i.toInt)
  | .float x => .num (.float x)
  | .str text => .str text
  | .sym name => .str name
  | .array items => .arr (toJsonList items)
  | .range first last exclusive =>
    .obj [("begin", toJson first), ("end", toJson last), ("exclusive", .bool exclusive)]
  | .node n => .str n.sexp

def toJsonList : List Literal → List Json
  | [] => []
  | v :: vs => toJson v :: toJsonList vs

end

end Literal

end RubyTree
