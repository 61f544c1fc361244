/-
Child paths as text.

A path is a list of child indices from a node down. Its text joins the indices by points, and the
empty path is a lone point. A text may have white space around it, and an index a plus sign and
leading zeros; indices are below `ChildPath.bound`.
-/

import RubyTree.Decimal.Nearest
import RubyTree.Text.Blank

namespace RubyTree.ChildPath

/-- The least number that is no index. -/
def bound : Nat := 0x10000000000000000

def format : List Nat → String
  | [] => "."
  | path => ".".intercalate (path.map toString)

/-- The parts of a text between its points. -/
def parts : List Char → List (List Char)
  | [] => [[]]
  | c :: cs =>
    if c = '.' then [] :: parts cs
    else
      match parts cs with
      | [] => [[c]]
      | p :: ps => (c :: p) :: ps

/-- The value of decimal digits, of which there is at least one. -/
def digits? (ds : List Char) : Option Nat :=
  if ds.isEmpty || !ds.all Char.isDigit then none
  else some (Decimal.ofDigits ds)

/-- The index that a part stands for. -/
def index? (part : List Char) : Option Nat :=
  let ds := match part with
    | '+' :: rest => rest
    | other => other
  (digits? ds).filter (fun n => decide (n < bound))

/-- The indices of parts, or the first part that is none. -/
def indices : List (List Char) → Except String (List Nat)
  | [] => .ok []
  | p :: ps =>
    match index? p with
    | none => .error (String.ofList p)
    | some i => (indices ps).map (i :: ·)

/-- The path that a text stands for, or the first part that is no index. -/
def parse (text : String) : Except String (List Nat) :=
  let cs := Text.trimChars text.toList
  if cs = [] ∨ cs = ['.'] then .ok [] else indices (parts cs)

end RubyTree.ChildPath
