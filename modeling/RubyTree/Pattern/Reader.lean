/-
Reading patterns.

While a pattern is read, each group that is not closed yet has a frame with what was read of it, and
the pattern itself has the outermost one. The field values that are patterns end before the first
closing brace, so a brace that opens can be closed by none.
-/

import RubyTree.Pattern.SetReader
import RubyTree.Text.Alphanumeric

namespace RubyTree.Pattern

/-- What was read of a group: its switches and name, the alternatives that are complete and the
items of the one that is not, both with the last one first, and whether the pattern is spaced
outside of it. -/
structure Frame where
  switches : Switches
  name : Option String
  alternatives : List (List Item)
  items : List Item
  spacedOutside : Bool

namespace Frame

def push (f : Frame) (item : Item) : Frame :=
  { f with items := item :: f.items }

/-- A frame that goes on with another alternative. -/
def alternate (f : Frame) : Frame :=
  { f with alternatives := f.items.reverse :: f.alternatives, items := [] }

def whole (f : Frame) : Pattern :=
  f.alternate.alternatives.reverse

/-- A frame with its last item repeated; switches cannot be. -/
def repeat? (f : Frame) : Option Frame :=
  match f.items with
  | [] => none
  | .switch _ :: _ => none
  | item :: items => some { f with items := .repeated item :: items }

end Frame

/-- Where the reading of a pattern stands: whether it is spaced here, and the groups around, the
innermost first. -/
structure Progress where
  spaced : Bool
  frame : Frame
  outer : List Frame

namespace Progress

def start : Progress :=
  ⟨false, ⟨[], none, [], [], false⟩, []⟩

def push (p : Progress) (item : Item) : Progress :=
  { p with frame := p.frame.push item }

def enter (p : Progress) (switches : Switches) (name : Option String) : Progress :=
  ⟨(switches.lookup 'x').getD p.spaced, ⟨switches, name, [], [], p.spaced⟩, p.frame :: p.outer⟩

def switch (p : Progress) (switches : Switches) : Progress :=
  { p.push (.switch switches) with spaced := (switches.lookup 'x').getD p.spaced }

def leave? (p : Progress) : Option Progress :=
  match p.outer with
  | [] => none
  | below :: outer =>
    let group := .group p.frame.switches p.frame.name p.frame.whole
    some ⟨p.frame.spacedOutside, below.push group, outer⟩

/-- The pattern that was read, if no group is left open. -/
def finish? (p : Progress) : Option Pattern :=
  if p.outer.isEmpty then some p.frame.whole else none

end Progress

/-! ### Groups -/

/-- Whether no member of a list comes twice. -/
def distinct {α : Type} [BEq α] : List α → Bool
  | [] => true
  | x :: xs => !xs.contains x && distinct xs

def switchLetters : List Char := ['i', 'm', 's', 'U', 'u', 'x', 'R']

/-- The switches that letters stand for. Those behind a hyphen are turned off, and there is one at
least; no letter comes twice. -/
def switches? (letters : List Char) : Option Switches :=
  let on := letters.takeWhile (· != '-')
  let off? := match letters.dropWhile (· != '-') with
    | [] => some []
    | [_] => none
    | _ :: off => some off
  off?.bind (fun off =>
    if (on ++ off).all switchLetters.contains && distinct (on ++ off) then
      some (on.map (fun c => (c, true)) ++ off.map (fun c => (c, false)))
    else none)

/-- Whether characters are the name of a group. -/
def isName : List Char → Bool
  | [] => false
  | c :: cs =>
    (c == '_' || Text.Letter.isLetter c)
      && cs.all (fun d => ['_', '.', '[', ']'].contains d || Text.isAlphanumeric d)

/-- Reads the name of a group up to its end, and enters the group. -/
def enterNamed (p : Progress) (cs : List Char) : Option (Progress × List Char) :=
  let name := cs.takeWhile (· != '>')
  match cs.dropWhile (· != '>') with
  | [] => none
  | _ :: rest => if isName name then some (p.enter [] (some (String.ofList name)), rest) else none

/-- Reads switches, for a group or for the rest of this one. -/
def switched (p : Progress) (cs : List Char) : Option (Progress × List Char) :=
  let isLetter (c : Char) : Bool := c != ':' && c != ')'
  (switches? (cs.takeWhile isLetter)).bind (fun switches =>
    match cs.dropWhile isLetter with
    | ':' :: rest => some (p.enter switches none, rest)
    | _ :: rest => if switches.isEmpty then none else some (p.switch switches, rest)
    | [] => none)

/-- Reads what opens a group, behind the parenthesis. -/
def opened (p : Progress) (cs : List Char) : Option (Progress × List Char) :=
  match skip p.spaced cs with
  | '?' :: 'P' :: '<' :: rest => enterNamed p rest
  | '?' :: '<' :: rest => enterNamed p rest
  | '?' :: rest => switched p rest
  | rest => some (p.enter [] none, rest)

/-! ### Items -/

def Item.ofEscape : Escape → Item
  | .literal c byte => .literal c byte
  | .shorthand negated => .shorthand negated
  | .anchor => .anchor
  | .wordEdge => .wordEdge

/-- Reads what `c` begins. A question mark behind a sign of repetition belongs to it. The fuel is
for a set of characters. -/
def step (fuel : Nat) (p : Progress) (c : Char) (rest : List Char) :
    Option (Progress × List Char) :=
  match c with
  | '(' => opened p rest
  | ')' => p.leave?.map (fun q => (q, rest))
  | '|' => some ({ p with frame := p.frame.alternate }, rest)
  | '[' => (CharSet.read p.spaced fuel rest).map (fun r => (p.push (.set r.1), r.2))
  | '?' | '*' | '+' =>
    p.frame.repeat?.map (fun frame =>
      match rest with
      | '?' :: more => ({ p with frame := frame }, more)
      | _ => ({ p with frame := frame }, rest))
  | '\x7b' => none
  | '.' => some (p.push .any, rest)
  | '^' | '$' => some (p.push .anchor, rest)
  | '\\' => (Escape.read p.spaced rest).map (fun r => (p.push (.ofEscape r.1), r.2))
  | _ => some (p.push (.literal c false), rest)

/-- Reads on up to the end of the text, in at most `fuel` steps. -/
def readOn : Nat → Progress → List Char → Option Pattern
  | 0, p, cs => if (skip p.spaced cs).isEmpty then p.finish? else none
  | fuel + 1, p, cs =>
    match skip p.spaced cs with
    | [] => p.finish?
    | c :: rest => (step fuel p c rest).bind (fun r => readOn fuel r.1 r.2)

/-- The pattern that characters stand for. Each step takes at least one of them, so the fuel never
runs out before they do. -/
def ofChars? (cs : List Char) : Option Pattern :=
  readOn cs.length .start cs

end RubyTree.Pattern
