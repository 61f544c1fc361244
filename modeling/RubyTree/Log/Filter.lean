/-
Log filters.

A filter is a list of directives. An event is judged by the one that goes before all others about
it; a filter without any directive lets errors through.
-/

import RubyTree.Log.Directive

namespace RubyTree.Log

/-- The directives of a filter, in order. -/
abbrev Filter : Type := List Directive

namespace Filter

/-- The parts of a text between its commas that are not empty. -/
def parts (text : String) : List String :=
  (text.splitOn ",").filter (fun part => part != "")

/-- The filter that a text stands for, with commas between its directives. A part that is no
directive is passed over. -/
def ofText (text : String) : Filter :=
  match (parts text).filterMap (fun part => (Directive.ofText part).toOption) with
  | [] => [⟨"", .all, Level.error.rank⟩]
  | directives => directives

/-- The warning about a part that is passed over. -/
def warning? (part : String) : Option String :=
  match Directive.ofText part with
  | .ok _ => none
  | .error fault => some ("ignoring `" ++ part ++ "`: " ++ fault.message)

/-- Whether a part is cut between its characters. -/
def isCut (part : String) : Bool :=
  match Directive.ofText part with
  | .error .cut => false
  | _ => true

/-- Whether a text can be read to its end. -/
def isReadable (text : String) : Bool :=
  (parts text).all isCut

/-- The warnings about the parts of a text that are passed over, as far as it is read. -/
def warnings (text : String) : List String :=
  ((parts text).takeWhile isCut).filterMap warning?

/-- The better of two directives for an event, of which `d` comes later. -/
def better (e : Event) (best : Option Directive) (d : Directive) : Option Directive :=
  if d.covers e then
    match best with
    | some b => if d.outranks b then some d else best
    | none => some d
  else best

/-- The directive that judges an event. -/
def directive? (f : Filter) (e : Event) : Option Directive :=
  f.foldl (better e) none

/-- Whether a filter lets an event through. -/
def admits (f : Filter) (e : Event) : Bool :=
  match f.directive? e with
  | some d => decide (e.level.rank ≤ d.limit)
  | none => false

end Filter

end RubyTree.Log
