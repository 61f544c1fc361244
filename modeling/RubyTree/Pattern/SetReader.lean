/-
Reading sets of characters.

A set stands between brackets and may hold further sets. While it is read, each bracket that is not
closed yet has a frame with what was read of it.
-/

import RubyTree.Pattern.Basic
import RubyTree.Pattern.Escape

namespace RubyTree.Pattern

namespace CharSet

/-- What was read of a set: what stands before its last operator, the members behind that, the last
one first, and whether nothing but hyphens was read. -/
structure Frame where
  negated : Bool
  left : Option CharSet
  members : List CharSet
  fresh : Bool

namespace Frame

def push (f : Frame) (member : CharSet) : Frame :=
  { f with members := member :: f.members, fresh := false }

def whole (f : Frame) : CharSet :=
  let right := .union f.members.reverse
  match f.left with
  | none => right
  | some left => .combined left right

/-- A frame with an operator behind what was read. -/
def operator (f : Frame) : Frame :=
  { f with left := some f.whole, members := [], fresh := false }

/-- The set between the brackets of a frame. -/
def closed (f : Frame) : CharSet :=
  .bracket f.negated f.whole

end Frame

/-! ### Members -/

/-- The names that a set may have between colons. -/
def names : List String :=
  ["alnum", "alpha", "ascii", "blank", "cntrl", "digit", "graph", "lower", "print", "punct",
   "space", "upper", "word", "xdigit"]

/-- Reads a named set behind its opening bracket. -/
def named? : List Char → Option (CharSet × List Char)
  | ':' :: cs =>
    let (negated, cs) := match cs with
      | '^' :: rest => (true, rest)
      | _ => (false, cs)
    match cs.dropWhile (· != ':') with
    | ':' :: ']' :: rest =>
      if names.contains (String.ofList (cs.takeWhile (· != ':'))) then
        some (.named negated, rest)
      else none
    | _ => none
  | _ => none

/-- Reads what `c` begins: an escape, or `c` itself. -/
def point (spaced : Bool) (c : Char) (rest : List Char) : Option (Escape × List Char) :=
  if c = '\\' then Escape.read spaced rest else some (.literal c false, rest)

/-- An escape as a member of a set; a place is none. -/
def ofEscape? : Escape → Option CharSet
  | .literal c _ => some (.range c c)
  | .shorthand negated => some (.shorthand negated)
  | .anchor | .wordEdge => none

/-- The range between two characters that are in order. -/
def range? : Escape → Escape → Option CharSet
  | .literal first _, .literal last _ =>
    if first.toNat ≤ last.toNat then some (.range first last) else none
  | _, _ => none

/-- Reads a member that `c` begins: one character, a shorthand, or a range of characters. A hyphen
makes no range in front of another one or of a closing bracket. -/
def member (spaced : Bool) (c : Char) (rest : List Char) : Option (CharSet × List Char) :=
  (point spaced c rest).bind (fun p =>
    match skip spaced p.2 with
    | '-' :: more =>
      if judge? spaced more = some ']' || judge? spaced more = some '-' then
        (ofEscape? p.1).map (fun m => (m, '-' :: more))
      else
        match skip spaced more with
        | [] => none
        | d :: more =>
          (point spaced d more).bind (fun q => (range? p.1 q.1).map (fun m => (m, q.2)))
    | more => (ofEscape? p.1).map (fun m => (m, more)))

/-! ### Brackets -/

/-- Reads what opens a set, behind the bracket. -/
def opening (spaced : Bool) (cs : List Char) : Frame × List Char :=
  match skip spaced cs with
  | '^' :: rest => (⟨true, none, [], true⟩, rest)
  | rest => (⟨false, none, [], true⟩, rest)

/-- Where the reading of a set stands: at its end, or inside brackets, the innermost first. -/
inductive Progress where
  | done (s : CharSet)
  | inside (frame : Frame) (outer : List Frame)

def close (frame : Frame) : List Frame → Progress
  | [] => .done frame.closed
  | below :: outer => .inside (below.push frame.closed) outer

/-- Reads an operator, a bracket or a member that `c` begins. Hyphens at the begin of a set are
members of it, and so is a closing bracket that comes first. -/
def step (spaced : Bool) (frame : Frame) (outer : List Frame) (c : Char) (rest : List Char) :
    Option (Progress × List Char) :=
  if frame.fresh && c = '-' then
    some (.inside { frame.push (.range '-' '-') with fresh := true } outer, rest)
  else if frame.fresh && frame.members.isEmpty && c = ']' then
    some (.inside (frame.push (.range ']' ']')) outer, rest)
  else
    match c, rest with
    | ']', _ => some (close frame outer, rest)
    | '[', _ =>
      match named? rest with
      | some (m, more) => some (.inside (frame.push m) outer, more)
      | none =>
        let (inner, more) := opening spaced rest
        some (.inside inner (frame :: outer), more)
    | '&', '&' :: more => some (.inside frame.operator outer, more)
    | '-', '-' :: more => some (.inside frame.operator outer, more)
    | '~', '~' :: more => some (.inside frame.operator outer, more)
    | _, _ => (member spaced c rest).map (fun p => (.inside (frame.push p.1) outer, p.2))

/-- Reads on up to the end of the outermost set, in at most `fuel` steps. -/
def readOn (spaced : Bool) : Nat → Progress → List Char → Option (CharSet × List Char)
  | _, .done s, cs => some (s, cs)
  | 0, .inside _ _, _ => none
  | fuel + 1, .inside frame outer, cs =>
    match skip spaced cs with
    | [] => none
    | c :: rest =>
      (step spaced frame outer c rest).bind (fun p => readOn spaced fuel p.1 p.2)

/-- Reads a set behind its opening bracket. Each step takes at least one character, so as much fuel
as there are characters is enough. -/
def read (spaced : Bool) (fuel : Nat) (cs : List Char) : Option (CharSet × List Char) :=
  let (frame, rest) := opening spaced cs
  readOn spaced fuel (.inside frame []) rest

end CharSet

end RubyTree.Pattern
