/-
Fields by name.

A field is one slot of a node or a list of children. Most single slots are where the schema puts
them; the target of an operator assignment, the default branch of a `case` or `rescue` and the flags
of a regular expression have rules of their own. Lists are those of `RubyTree.Field.Listing` and
`RubyTree.Field.Entries`, and are never read as single slots.
-/

import RubyTree.Field.Entries
import RubyTree.Field.Listing

namespace RubyTree

/-- What a field holds. -/
inductive Reading where
  | one (c : Child)
  | many (cs : List Child)

def Reading.children : Reading → List Child
  | .one c => [c]
  | .many cs => cs

/-! ### Single slots -/

namespace Node

/-- The slot at the schema position of a field. -/
def positional (n : Node) (field : String) : Except Refusal Child :=
  match Schema.fieldIndex? n.type field with
  | some i => if Schema.isListField field then n.refuse field else .ok (n.child i)
  | none => n.refuse field

/-- The target of an assignment. Below an operator assignment, the assignment of a plain variable
stands for the name of the variable. -/
def leftValue (n : Node) : Except Refusal Child :=
  match n.type with
  | .orAsgn | .andAsgn | .opAsgn =>
    match n.child 0 with
    | .node m => if m.type.isVariableAssignment then .ok (m.child 0) else .ok (.node m)
    | c => .ok c
  | _ => n.positional "left_value"

/-- The default branch, which is the last child behind any number of clauses. -/
def elseStatement (n : Node) : Except Refusal Child :=
  match n.type with
  | .caseWhen | .caseMatch | .rescueClause => .ok n.lastChild
  | _ => n.positional "else_statement"

/-- The flags of a regular expression. -/
def options (n : Node) : Except Refusal Child :=
  match n.type with
  | .regexpLit => .ok n.lastChild
  | _ => n.refuse "options"

/-- The slot of a field by its name. -/
def resolve (n : Node) (field : String) : Except Refusal Child :=
  if field = "left_value" then n.leftValue
  else if field = "else_statement" then n.elseStatement
  else if field = "options" then n.options
  else n.positional field

end Node

/-- The single slots that have an accessor. -/
inductive Slot where
  | receiver | message | name | caller | key | value | leftValue | rightValue | parentClass
  | parentConst | expression | ifStatement | elseStatement | newName | oldName | operator | binder
  | iterable | guard | pattern | rangeBegin | rangeEnd | argumentsCount | singleton | options
deriving DecidableEq

namespace Slot

def all : List Slot :=
  [.receiver, .message, .name, .caller, .key, .value, .leftValue, .rightValue, .parentClass,
   .parentConst, .expression, .ifStatement, .elseStatement, .newName, .oldName, .operator, .binder,
   .iterable, .guard, .pattern, .rangeBegin, .rangeEnd, .argumentsCount, .singleton, .options]

def field : Slot → String
  | .receiver => "receiver"
  | .message => "message"
  | .name => "name"
  | .caller => "caller"
  | .key => "key"
  | .value => "value"
  | .leftValue => "left_value"
  | .rightValue => "right_value"
  | .parentClass => "parent_class"
  | .parentConst => "parent_const"
  | .expression => "expression"
  | .ifStatement => "if_statement"
  | .elseStatement => "else_statement"
  | .newName => "new_name"
  | .oldName => "old_name"
  | .operator => "operator"
  | .binder => "variable"
  | .iterable => "iterable"
  | .guard => "guard"
  | .pattern => "pattern"
  | .rangeBegin => "begin"
  | .rangeEnd => "end"
  | .argumentsCount => "arguments_count"
  | .singleton => "self"
  | .options => "options"

/-- The name that a slot is called by: its field, except for the receiver of a singleton method. -/
def callName : Slot → String
  | .singleton => "singleton"
  | slot => slot.field

def ofCallName? (name : String) : Option Slot :=
  all.find? (fun slot => slot.callName == name)

end Slot

def Node.get (n : Node) : Slot → Except Refusal Child
  | .leftValue => n.leftValue
  | .elseStatement => n.elseStatement
  | .options => n.options
  | slot => n.positional slot.field

/-! ### Lists -/

/-- The lists of children that have an accessor. -/
inductive Listing where
  | arguments | body | elements | whenStatements | inStatements | rescueBodies | ensureBody
  | exceptions | pairs | kwsplats | keys | values
deriving DecidableEq

namespace Listing

def all : List Listing :=
  [.arguments, .body, .elements, .whenStatements, .inStatements, .rescueBodies, .ensureBody,
   .exceptions, .pairs, .kwsplats, .keys, .values]

def field : Listing → String
  | .arguments => "arguments"
  | .body => "body"
  | .elements => "elements"
  | .whenStatements => "when_statements"
  | .inStatements => "in_statements"
  | .rescueBodies => "rescue_bodies"
  | .ensureBody => "ensure_body"
  | .exceptions => "exceptions"
  | .pairs => "pairs"
  | .kwsplats => "kwsplats"
  | .keys => "keys"
  | .values => "values"

def ofField? (name : String) : Option Listing :=
  all.find? (fun listing => listing.field == name)

end Listing

def Node.list (n : Node) : Listing → Except Refusal (List Child)
  | .arguments => n.arguments
  | .body => n.body
  | .elements => n.elements
  | .whenStatements => n.whenStatements
  | .inStatements => n.inStatements
  | .rescueBodies => n.rescueBodies
  | .ensureBody => n.ensureBody
  | .exceptions => n.exceptions
  | .pairs => n.pairs
  | .kwsplats => n.kwsplats
  | .keys => n.keys
  | .values => n.values

/-! ### Any field -/

/-- A field of a node by its name, be it a single slot or a list. -/
def Node.field (n : Node) (name : String) : Except Refusal Reading :=
  match Listing.ofField? name with
  | some listing => (n.list listing).map .many
  | none => (n.resolve name).map .one

end RubyTree
