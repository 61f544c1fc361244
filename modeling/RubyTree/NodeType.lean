/-
Node types of a Ruby syntax tree.

The set is closed: `NodeType.ofTag?` knows exactly the tags that `NodeType.tag` writes, so a tag
outside the list is refused where a tree is read and never carried as text. Constructors stand in
the order in which types are listed and compared; `NodeType.all` is that list.
-/

namespace RubyTree

/-- A kind of node, as the Ruby parser names it. -/
inductive NodeType where
  | aliasStmt | andExpr | andAsgn | arg | args | arrayLit | arrayPattern | arrayPatternWithTail
  | backRef | beginSeq | block | blockPass | blockarg | breakStmt | caseWhen | caseMatch
  | casgn | cbase | classDef | complexLit | constRef | constPattern | csend | cvar | cvasgn
  | methodDef | definedCheck | singletonDef | dstr | dsym | eflipflop | emptyElse
  | currentEncoding | ensureClause | erange | falseLit | currentFile | findPattern | floatLit
  | forLoop | forwardArg | forwardArgs | forwardedArgs | gvar | gvasgn | hashLit | hashPattern
  | ident | ifElse | ifGuard | iflipflop | inMatch | inPattern | indexCall | indexAsgn | intLit
  | irange | ivar | ivasgn | kwarg | kwargs | kwbegin | kwnilarg | kwoptarg | kwrestarg
  | kwsplat | lambdaLit | currentLine | lvar | lvasgn | masgn | matchAlt | matchAs
  | matchCurrentLine | matchNilPattern | matchPattern | matchPatternP | matchRest | matchVar
  | matchWithLvasgn | mlhs | moduleDef | nextStmt | nilLit | nthRef | numblock | opAsgn
  | optarg | orExpr | orAsgn | pair | pin | postexe | preexe | procarg0 | rationalLit
  | redoStmt | regexpLit | regopt | resbody | rescueClause | restarg | retryStmt | returnStmt
  | singletonClass | selfRef | send | shadowarg | splat | strLit | superCall | symLit | trueLit
  | undefStmt | unlessGuard | untilLoop | untilPost | whenClause | whileLoop | whilePost | xstr
  | yieldCall | zsuperCall
deriving DecidableEq

namespace NodeType

def all : List NodeType :=
  [.aliasStmt, .andExpr, .andAsgn, .arg, .args, .arrayLit, .arrayPattern,
   .arrayPatternWithTail, .backRef, .beginSeq, .block, .blockPass, .blockarg, .breakStmt,
   .caseWhen, .caseMatch, .casgn, .cbase, .classDef, .complexLit, .constRef, .constPattern,
   .csend, .cvar, .cvasgn, .methodDef, .definedCheck, .singletonDef, .dstr, .dsym, .eflipflop,
   .emptyElse, .currentEncoding, .ensureClause, .erange, .falseLit, .currentFile, .findPattern,
   .floatLit, .forLoop, .forwardArg, .forwardArgs, .forwardedArgs, .gvar, .gvasgn, .hashLit,
   .hashPattern, .ident, .ifElse, .ifGuard, .iflipflop, .inMatch, .inPattern, .indexCall,
   .indexAsgn, .intLit, .irange, .ivar, .ivasgn, .kwarg, .kwargs, .kwbegin, .kwnilarg,
   .kwoptarg, .kwrestarg, .kwsplat, .lambdaLit, .currentLine, .lvar, .lvasgn, .masgn,
   .matchAlt, .matchAs, .matchCurrentLine, .matchNilPattern, .matchPattern, .matchPatternP,
   .matchRest, .matchVar, .matchWithLvasgn, .mlhs, .moduleDef, .nextStmt, .nilLit, .nthRef,
   .numblock, .opAsgn, .optarg, .orExpr, .orAsgn, .pair, .pin, .postexe, .preexe, .procarg0,
   .rationalLit, .redoStmt, .regexpLit, .regopt, .resbody, .rescueClause, .restarg, .retryStmt,
   .returnStmt, .singletonClass, .selfRef, .send, .shadowarg, .splat, .strLit, .superCall,
   .symLit, .trueLit, .undefStmt, .unlessGuard, .untilLoop, .untilPost, .whenClause,
   .whileLoop, .whilePost, .xstr, .yieldCall, .zsuperCall]

def tag : NodeType → String
  | .aliasStmt => "alias"
  | .andExpr => "and"
  | .andAsgn => "and_asgn"
  | .arg => "arg"
  | .args => "args"
  | .arrayLit => "array"
  | .arrayPattern => "array_pattern"
  | .arrayPatternWithTail => "array_pattern_with_tail"
  | .backRef => "back_ref"
  | .beginSeq => "begin"
  | .block => "block"
  | .blockPass => "block_pass"
  | .blockarg => "blockarg"
  | .breakStmt => "break"
  | .caseWhen => "case"
  | .caseMatch => "case_match"
  | .casgn => "casgn"
  | .cbase => "cbase"
  | .classDef => "class"
  | .complexLit => "complex"
  | .constRef => "const"
  | .constPattern => "const_pattern"
  | .csend => "csend"
  | .cvar => "cvar"
  | .cvasgn => "cvasgn"
  | .methodDef => "def"
  | .definedCheck => "defined?"
  | .singletonDef => "defs"
  | .dstr => "dstr"
  | .dsym => "dsym"
  | .eflipflop => "eflipflop"
  | .emptyElse => "empty_else"
  | .currentEncoding => "__ENCODING__"
  | .ensureClause => "ensure"
  | .erange => "erange"
  | .falseLit => "false"
  | .currentFile => "__FILE__"
  | .findPattern => "find_pattern"
  | .floatLit => "float"
  | .forLoop => "for"
  | .forwardArg => "forward_arg"
  | .forwardArgs => "forward_args"
  | .forwardedArgs => "forwarded_args"
  | .gvar => "gvar"
  | .gvasgn => "gvasgn"
  | .hashLit => "hash"
  | .hashPattern => "hash_pattern"
  | .ident => "ident"
  | .ifElse => "if"
  | .ifGuard => "if_guard"
  | .iflipflop => "iflipflop"
  | .inMatch => "in_match"
  | .inPattern => "in_pattern"
  | .indexCall => "index"
  | .indexAsgn => "indexasgn"
  | .intLit => "int"
  | .irange => "irange"
  | .ivar => "ivar"
  | .ivasgn => "ivasgn"
  | .kwarg => "kwarg"
  | .kwargs => "kwargs"
  | .kwbegin => "kwbegin"
  | .kwnilarg => "kwnilarg"
  | .kwoptarg => "kwoptarg"
  | .kwrestarg => "kwrestarg"
  | .kwsplat => "kwsplat"
  | .lambdaLit => "lambda"
  | .currentLine => "__LINE__"
  | .lvar => "lvar"
  | .lvasgn => "lvasgn"
  | .masgn => "masgn"
  | .matchAlt => "match_alt"
  | .matchAs => "match_as"
  | .matchCurrentLine => "match_current_line"
  | .matchNilPattern => "match_nil_pattern"
  | .matchPattern => "match_pattern"
  | .matchPatternP => "match_pattern_p"
  | .matchRest => "match_rest"
  | .matchVar => "match_var"
  | .matchWithLvasgn => "match_with_lvasgn"
  | .mlhs => "mlhs"
  | .moduleDef => "module"
  | .nextStmt => "next"
  | .nilLit => "nil"
  | .nthRef => "nth_ref"
  | .numblock => "numblock"
  | .opAsgn => "op_asgn"
  | .optarg => "optarg"
  | .orExpr => "or"
  | .orAsgn => "or_asgn"
  | .pair => "pair"
  | .pin => "pin"
  | .postexe => "postexe"
  | .preexe => "preexe"
  | .procarg0 => "procarg0"
  | .rationalLit => "rational"
  | .redoStmt => "redo"
  | .regexpLit => "regexp"
  | .regopt => "regopt"
  | .resbody => "resbody"
  | .rescueClause => "rescue"
  | .restarg => "restarg"
  | .retryStmt => "retry"
  | .returnStmt => "return"
  | .singletonClass => "sclass"
  | .selfRef => "self"
  | .send => "send"
  | .shadowarg => "shadowarg"
  | .splat => "splat"
  | .strLit => "str"
  | .superCall => "super"
  | .symLit => "sym"
  | .trueLit => "true"
  | .undefStmt => "undef"
  | .unlessGuard => "unless_guard"
  | .untilLoop => "until"
  | .untilPost => "until_post"
  | .whenClause => "when"
  | .whileLoop => "while"
  | .whilePost => "while_post"
  | .xstr => "xstr"
  | .yieldCall => "yield"
  | .zsuperCall => "zsuper"

def ofTag? (s : String) : Option NodeType :=
  all.find? (fun t => t.tag == s)

/-- The place of a type in `all`; it orders the types. -/
def rank (t : NodeType) : Nat :=
  all.idxOf t

/-- Assignments whose first child is the bare name of a variable. -/
def isVariableAssignment : NodeType → Bool
  | .lvasgn | .ivasgn | .cvasgn | .gvasgn => true
  | _ => false

end NodeType

end RubyTree
