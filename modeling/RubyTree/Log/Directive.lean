/-
Directives of log filters.

A directive says for some events up to which rank they are let through. It has a target, which the
targets of its events begin with, a bracket, which asks more of them, and a level, and each of the
three may be left out: `target[{field}]=level`. The bracket `[name]` is about spans of that name and
`[{field=value}]` about spans with that value; no event is in a span, so such a directive is about
no event. The value is a number or a pattern, for which a machine has to be built.

The form of a directive is read from its text without the white space around it, and its parts are
cut from the text as it stands at the same byte offsets. If white space in front shifts an offset
into a character, there is no cut, and with it no way to go on.
-/

import RubyTree.ChildPath
import RubyTree.Decimal.Spelling
import RubyTree.Log.Event
import RubyTree.Pattern.Machine
import RubyTree.Text.Alphanumeric
import RubyTree.Text.Blank
import RubyTree.Text.Cut

namespace RubyTree.Log

/-- Which events of its target a directive is about: all, those that have a field, or none, because
it is about spans. -/
inductive Scope where
  | all
  | field (name : String)
  | spans
deriving DecidableEq

/-- Lets the events of a scope and of all targets that begin with `target` through, up to a rank. -/
structure Directive where
  target : String
  scope : Scope
  limit : Nat
deriving DecidableEq

namespace Directive

/-- Why a text is no directive: it has another form, its level is none, there is no machine for the
value of a field, or it would be cut inside a character. -/
inductive Fault where
  | form
  | level
  | value (fault : Pattern.Fault)
  | cut
deriving DecidableEq

/-- The wording of a fault. There is none for a cut, which ends the program. -/
def Fault.message : Fault → String
  | .form => "invalid filter directive"
  | .value fault => "invalid field filter: " ++ fault.message
  | .cut => ""
  | .level =>
    "error parsing level filter: expected one of \"off\", \"error\", \"warn\", \"info\", "
      ++ "\"debug\", \"trace\", or a number 0-5"

/-! ### Levels -/

/-- The words for the ranks, the one that lets nothing through first. -/
def rankWords : List String := ["off", "error", "warn", "info", "debug", "trace"]

/-- The rank that a number stands for. -/
def rankNumber? (text : List Char) : Option Nat :=
  (ChildPath.index? text).filter (fun n => decide (n ≤ Level.trace.rank))

/-- The rank that a word in any case or a number stands for. -/
def limit? (text : List Char) : Option Nat :=
  (rankNumber? text).or (rankWords.idxOf? (String.ofList text).toLower)

/-- The rank of a level that is written out; nothing stands for the lowest level. -/
def writtenLimit (text : String) : Except Fault Nat :=
  if text = "" then .ok Level.trace.rank
  else
    match limit? text.toList with
    | some limit => .ok limit
    | none => .error .level

/-! ### Reading -/

/-- Whether a directive may begin with a character. -/
def isFirst (c : Char) : Bool :=
  Text.isAlphanumeric c || c == '-' || c == ':' || c == '_'

/-- The part of a text between two byte offsets. -/
def part (text : String) (start stop : Nat) : Except Fault String :=
  match Text.cut? text start stop with
  | some between => .ok between
  | none => .error .cut

/-- Reads the level from `start` on to the end of a text. -/
def levelFrom (text : String) (target : String) (scope : Scope) (start : Nat) :
    Except Fault Directive :=
  (part text start (Text.byteLength text.toList)).bind (fun level =>
    (writtenLimit level).map (fun limit => ⟨target, scope, limit⟩))

/-- Reads what comes behind the bracket, from `start` on: a level or nothing. -/
def behindBracket (text : String) (target : String) (scope : Scope) (start : Nat) :
    List Char → Except Fault Directive
  | [] => .ok ⟨target, scope, Level.trace.rank⟩
  | '=' :: _ => levelFrom text target scope (start + 1)
  | _ => .error .form

/-- What is wrong with the value of a field, which is a number or a pattern. -/
def valueFault? (value : String) : Option Pattern.Fault :=
  if Decimal.isNumber value.toList then none else Pattern.textFault? value.toList

/-- The scope of a bracket with a field: that field, unless its value is asked for too or the
bracket has a name. -/
def fieldScope (hasName : Bool) (field : String) : Except Fault Scope :=
  match field.splitOn "=" with
  | _ :: value :: _ =>
    match valueFault? value with
    | some fault => .error (.value fault)
    | none => .ok .spans
  | _ =>
    if field = "" then .error .form
    else .ok (if hasName then .spans else .field field)

/-- Reads the field of a bracket from `start` on, and what follows it. -/
def field (text : String) (target : String) (hasName : Bool) (start : Nat) (cs : List Char) :
    Except Fault Directive :=
  let name := cs.takeWhile (· != '\x7d')
  let stop := start + Text.byteLength name
  match cs.drop name.length with
  | [] => .error .form
  | _ :: rest =>
    ((part text start stop).bind (fieldScope hasName)).bind (fun scope =>
      match rest with
      | ']' :: rest => behindBracket text target scope (stop + 2) rest
      | _ => .error .form)

/-- Reads a bracket from `start` on, behind its opening, and what follows it. -/
def bracket (text : String) (target : String) (start : Nat) (cs : List Char) :
    Except Fault Directive :=
  let name := cs.takeWhile (fun c => c != ']' && c != '\x7b')
  let stop := start + Text.byteLength name
  match cs.drop name.length with
  | [] => .error .form
  | c :: rest =>
    (part text start stop).bind (fun name =>
      if c = ']' then behindBracket text target .spans (stop + 1) rest
      else field text target (name != "") (stop + 1) rest)

/-- The directive of a text without a bracket and a level behind `=`: a level for all targets, or a
target of which everything is let through. -/
def plain (text : String) : Directive :=
  match limit? text.toList with
  | some limit => ⟨"", .all, limit⟩
  | none => ⟨text, .all, Level.trace.rank⟩

def ofText (text : String) : Except Fault Directive :=
  match Text.trimChars text.toList with
  | [] => .error .form
  | '[' :: rest => bracket text "" 1 rest
  | first :: cs =>
    if isFirst first then
      let target := first :: cs.takeWhile (fun c => c != '=' && c != '[')
      let stop := Text.byteLength target
      match (first :: cs).drop target.length with
      | [] => .ok (plain text)
      | c :: rest =>
        (part text 0 stop).bind (fun target =>
          if c = '=' then levelFrom text target .all (stop + 1)
          else bracket text target (stop + 1) rest)
    else .error .form

/-! ### Events -/

def Scope.holds (e : Event) : Scope → Bool
  | .all => true
  | .field name => e.fieldNames.contains name
  | .spans => false

def covers (d : Directive) (e : Event) : Bool :=
  d.target.toList.isPrefixOf e.target.toList && Scope.holds e d.scope

/-- Whether a scope is at least as narrow as another one: one of a field is narrower than that of
all, and of two fields the one whose name comes later in the alphabet counts as narrower. -/
def narrower : Scope → Scope → Bool
  | .field name, .field other => decide (other ≤ name)
  | .all, .field _ => false
  | _, _ => true

/-- Whether a directive goes before another one that is about the same event and was given earlier:
it has the longer target or, with the same one, a scope at least as narrow. -/
def outranks (d other : Directive) : Bool :=
  if d.target.length = other.target.length then narrower d.scope other.scope
  else decide (other.target.length < d.target.length)

end Directive

end RubyTree.Log
