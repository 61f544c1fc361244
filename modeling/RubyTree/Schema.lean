/-
Field schema of the node types.

A registered type has a list of field names in positional order: the name at index `i` describes
the child at index `i`. A name from `listFields` stands where its children begin, and its value is
a list that `RubyTree.Field.Listing` computes. A type without a schema is read through its raw
children, which is different from a schema without fields.
-/

import RubyTree.NodeType

namespace RubyTree.Schema

/-- Field names whose value is a list of children. -/
def listFields : List String :=
  ["arguments", "body", "elements", "ensure_body", "exceptions", "in_statements", "keys",
   "kwsplats", "pairs", "rescue_bodies", "values", "when_statements"]

/-- The fields of a type in positional order, or `none` when the type has no fixed shape. -/
def fields : NodeType → Option (List String)
  | .aliasStmt => some ["new_name", "old_name"]
  | .andExpr | .orExpr => some ["left_value", "right_value"]
  | .andAsgn | .orAsgn => some ["left_value", "right_value"]
  | .opAsgn => some ["left_value", "operator", "right_value"]
  | .lvasgn | .ivasgn | .cvasgn | .gvasgn | .masgn => some ["left_value", "right_value"]
  | .casgn => some ["parent_const", "name", "right_value"]
  | .arg | .blockarg | .kwarg | .kwrestarg | .restarg | .shadowarg => some ["name"]
  | .optarg | .kwoptarg => some ["name", "value"]
  | .args => some ["arguments"]
  | .arrayLit | .arrayPattern | .arrayPatternWithTail | .findPattern | .dstr | .dsym | .xstr
  | .matchAlt | .mlhs | .undefStmt | .regopt => some ["elements"]
  | .backRef | .nthRef | .gvar | .ivar | .cvar | .lvar | .matchVar => some ["name"]
  | .beginSeq | .kwbegin | .preexe | .postexe => some ["body"]
  | .block => some ["caller", "arguments", "body"]
  | .numblock => some ["caller", "arguments_count", "body"]
  | .blockPass => some ["name"]
  | .breakStmt | .nextStmt | .returnStmt | .superCall | .yieldCall | .definedCheck =>
    some ["arguments"]
  | .caseWhen => some ["expression", "when_statements", "else_statement"]
  | .caseMatch => some ["expression", "in_statements", "else_statement"]
  | .classDef => some ["name", "parent_class", "body"]
  | .singletonClass | .moduleDef => some ["name", "body"]
  | .constRef => some ["parent_const", "name"]
  | .send | .csend => some ["receiver", "message", "arguments"]
  | .indexCall => some ["receiver", "arguments"]
  | .methodDef => some ["name", "arguments", "body"]
  | .singletonDef => some ["self", "name", "arguments", "body"]
  | .intLit | .floatLit | .strLit | .symLit | .rationalLit | .complexLit => some ["value"]
  | .irange | .erange | .iflipflop | .eflipflop => some ["begin", "end"]
  | .ensureClause => some ["body", "ensure_body"]
  | .forLoop => some ["variable", "iterable", "body"]
  | .hashLit | .hashPattern | .kwargs => some ["pairs"]
  | .ifElse => some ["expression", "if_statement", "else_statement"]
  | .inPattern => some ["expression", "guard", "body"]
  | .ifGuard | .unlessGuard | .pin => some ["expression"]
  | .kwsplat | .splat => some ["value"]
  | .matchRest => some ["variable"]
  | .matchAs => some ["value", "variable"]
  | .matchPattern | .matchPatternP => some ["value", "pattern"]
  | .pair => some ["key", "value"]
  | .regexpLit => some ["elements", "options"]
  | .resbody => some ["exceptions", "variable", "body"]
  | .rescueClause => some ["body", "rescue_bodies", "else_statement"]
  | .untilLoop | .whileLoop | .untilPost | .whilePost => some ["expression", "body"]
  | .whenClause => some ["expression", "body"]
  | .cbase | .selfRef | .nilLit | .trueLit | .falseLit | .zsuperCall | .redoStmt | .retryStmt
  | .forwardArgs | .forwardArg | .kwnilarg | .lambdaLit | .matchNilPattern => some []
  | _ => none

/-- The position of a field in the schema of a type. -/
def fieldIndex? (type : NodeType) (field : String) : Option Nat :=
  (fields type).bind (fun names => names.findIdx? (fun name => name == field))

def isRegistered (type : NodeType) : Bool :=
  (fields type).isSome

def isListField (field : String) : Bool :=
  listFields.contains field

/-- The registered types with their fields, in the order of the types. -/
def registered : List (NodeType × List String) :=
  NodeType.all.filterMap (fun type => (fields type).map (fun names => (type, names)))

end RubyTree.Schema
