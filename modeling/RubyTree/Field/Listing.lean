/-
Fields that are lists of children.

The parser stores one statement as it is and wraps two or more in a `begin` node, so a body is
either the children of such a node or the trailing slots. Parameters and exception classes have
wrappers of their own, and clauses stand between a leading and a trailing slot.
-/

import RubyTree.Field.Refusal

namespace RubyTree

/-- A slot as a list: nothing for `nil`, the children of a wrapper, and any other child alone. -/
def Child.unwrap (wrapper : NodeType) : Child → List Child
  | .nil => []
  | .node n => if n.type = wrapper then n.children else [.node n]
  | c => [c]

namespace Node

/-- The statements from a slot on: nothing when it is missing or `nil`, the children of a `begin`
node in it, and else all children from the slot on. -/
def statementsFrom (n : Node) (slot : Nat) : List Child :=
  match n.children.drop slot with
  | [] => []
  | .nil :: _ => []
  | .node m :: rest => if m.type = .beginSeq then m.children else .node m :: rest
  | c :: rest => c :: rest

/-- The children between the first and the last one. -/
def clauses (n : Node) : List Child :=
  n.children.tail.dropLast

/-- The parameters of a definition or block, or the arguments of a call. -/
def arguments (n : Node) : Except Refusal (List Child) :=
  match n.type with
  | .methodDef | .block => .ok ((n.child 1).unwrap .args)
  | .singletonDef => .ok ((n.child 2).unwrap .args)
  | .send | .csend => .ok (n.children.drop 2)
  | .indexCall => .ok (n.children.drop 1)
  | .args | .definedCheck | .superCall | .yieldCall | .breakStmt | .nextStmt | .returnStmt =>
    .ok n.children
  | _ => n.refuse "arguments"

/-- The statements of a construct, in source order. -/
def body (n : Node) : Except Refusal (List Child) :=
  match n.type with
  | .beginSeq | .kwbegin => .ok n.children
  | .methodDef | .block | .numblock | .classDef | .forLoop | .inPattern | .resbody =>
    .ok (n.statementsFrom 2)
  | .moduleDef | .singletonClass | .whileLoop | .untilLoop | .whilePost | .untilPost =>
    .ok (n.statementsFrom 1)
  | .singletonDef => .ok (n.statementsFrom 3)
  | .whenClause => .ok (n.statementsFrom (n.children.length - 1))
  | .rescueClause | .ensureClause | .preexe | .postexe => .ok ((n.child 0).unwrap .beginSeq)
  | _ => n.refuse "body"

def whenStatements (n : Node) : Except Refusal (List Child) :=
  match n.type with
  | .caseWhen => .ok n.clauses
  | _ => n.refuse "when_statements"

def inStatements (n : Node) : Except Refusal (List Child) :=
  match n.type with
  | .caseMatch => .ok n.clauses
  | _ => n.refuse "in_statements"

/-- The handlers of a `rescue`. -/
def rescueBodies (n : Node) : Except Refusal (List Child) :=
  match n.type with
  | .rescueClause => .ok n.clauses
  | _ => n.refuse "rescue_bodies"

/-- The statements of an `ensure` clause itself. -/
def ensureBody (n : Node) : Except Refusal (List Child) :=
  match n.type with
  | .ensureClause => .ok (n.statementsFrom 1)
  | _ => n.refuse "ensure_body"

/-- The exception classes of a handler. -/
def exceptions (n : Node) : Except Refusal (List Child) :=
  match n.type with
  | .resbody => .ok ((n.child 0).unwrap .arrayLit)
  | _ => n.refuse "exceptions"

/-- The members of a collection, an interpolation or a list of patterns. The last child of a regular
expression holds its flags and is none of them. -/
def elements (n : Node) : Except Refusal (List Child) :=
  match n.type with
  | .arrayLit | .arrayPattern | .arrayPatternWithTail | .findPattern | .dstr | .dsym | .xstr
  | .matchAlt | .mlhs | .undefStmt | .regopt => .ok n.children
  | .regexpLit => .ok n.children.dropLast
  | _ => n.refuse "elements"

end Node

end RubyTree
