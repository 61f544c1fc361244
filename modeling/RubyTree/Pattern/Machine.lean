/-
Machines for patterns.

A machine that looks for a pattern in a text can be built unless the pattern is nested too deeply,
has two groups of one name, or needs a table of characters that there is not: of the characters that
are digits, blanks or parts of words, and of the letters that differ in their case only. A pattern
that is about bytes must not match half a character. Even then the machine cannot tell where words
of all scripts begin and end.
-/

import RubyTree.Pattern.Reader

namespace RubyTree.Pattern

/-! ### Depth -/

/-- The depth that one more level adds to several parts; a single part needs none. -/
def levels (count : Nat) : Nat :=
  if count < 2 then 0 else 1

mutual

def CharSet.depth : CharSet → Nat
  | .range _ _ | .named _ | .shorthand _ => 0
  | .bracket _ members => members.depth + 1
  | .union members => CharSet.depths members + levels members.length
  | .combined left right => max left.depth right.depth + 1

def CharSet.depths : List CharSet → Nat
  | [] => 0
  | s :: rest => max s.depth (CharSet.depths rest)

end

mutual

def Item.depth : Item → Nat
  | .switch _ | .literal _ _ | .any | .anchor | .wordEdge | .shorthand _ => 0
  | .set s => s.depth
  | .repeated item => item.depth + 1
  | .group _ _ alternatives =>
    alternativesDepth alternatives + levels alternatives.length + 1

def itemsDepth : List Item → Nat
  | [] => 0
  | item :: rest => max item.depth (itemsDepth rest)

def alternativesDepth : List (List Item) → Nat
  | [] => 0
  | items :: rest => max (itemsDepth items + levels items.length) (alternativesDepth rest)

end

def depth (p : Pattern) : Nat :=
  alternativesDepth p + levels p.length

def depthLimit : Nat := 250

/-! ### Names -/

mutual

def Item.names : Item → List String
  | .repeated item => item.names
  | .group _ name alternatives => name.toList ++ alternativesNames alternatives
  | _ => []

def itemsNames : List Item → List String
  | [] => []
  | item :: rest => item.names ++ itemsNames rest

def alternativesNames : List (List Item) → List String
  | [] => []
  | items :: rest => itemsNames items ++ alternativesNames rest

end

/-! ### Modes -/

/-- Whether letters of both cases are the same, and whether a text is taken for characters instead
of bytes. -/
structure Mode where
  caseless : Bool
  unicode : Bool

namespace Mode

def start : Mode := ⟨false, true⟩

/-- The mode behind switches. -/
def apply (m : Mode) (switches : Switches) : Mode :=
  ⟨(switches.lookup 'i').getD m.caseless, (switches.lookup 'u').getD m.unicode⟩

/-- The mode behind an item. Switches in a group end with it. -/
def behind (m : Mode) : Item → Mode
  | .switch switches => m.apply switches
  | _ => m

end Mode

mutual

/-- The parts of an item that are neither groups nor repetitions, each with the mode there. -/
def Item.leaves (m : Mode) : Item → List (Mode × Item)
  | .repeated item => item.leaves m
  | .group switches _ alternatives => alternativesLeaves (m.apply switches) alternatives
  | item => [(m, item)]

def itemsLeaves (m : Mode) : List Item → List (Mode × Item)
  | [] => []
  | item :: rest => item.leaves m ++ itemsLeaves (m.behind item) rest

/-- The leaves of alternatives. Switches hold for the alternatives behind them too. -/
def alternativesLeaves (m : Mode) : List (List Item) → List (Mode × Item)
  | [] => []
  | items :: rest => itemsLeaves m items ++ alternativesLeaves (items.foldl Mode.behind m) rest

end

/-! ### Machines -/

/-- Whether a character is one byte. -/
def isAscii (c : Char) : Bool :=
  decide (c.toNat < 0x80)

mutual

/-- Whether a set can be told in a mode. A set without any member always can. -/
def CharSet.isTold (m : Mode) : CharSet → Bool
  | .range _ last => if m.unicode then !m.caseless else isAscii last
  | .named negated => if m.unicode then !m.caseless else !negated
  | .shorthand negated => !m.unicode && !negated
  | .bracket negated members => (m.unicode || !negated) && members.isTold m
  | .union members => CharSet.areTold m members
  | .combined left right => left.isTold m && right.isTold m

def CharSet.areTold (m : Mode) : List CharSet → Bool
  | [] => true
  | s :: rest => s.isTold m && CharSet.areTold m rest

end

/-- Whether a machine can tell a leaf in a mode. -/
def Item.isTold (m : Mode) : Item → Bool
  | .literal c byte => if m.unicode then !m.caseless else isAscii c || !byte
  | .any => m.unicode
  | .shorthand negated => !m.unicode && !negated
  | .set s => s.isTold m
  | _ => true

/-- Whether a leaf is about the words of all scripts. -/
def Item.isWordEdge (m : Mode) : Item → Bool
  | .wordEdge => m.unicode
  | _ => false

/-- Why there is no machine for a text: it is no pattern that one can be built for, or one where
words of all scripts begin or end. -/
inductive Fault where
  | unbuilt
  | wordEdge
deriving DecidableEq

def Fault.message : Fault → String
  | .unbuilt => "error building NFA"
  | .wordEdge =>
    "unsupported regex feature for DFAs: cannot build DFAs for regexes with Unicode word "
      ++ "boundaries; switch to ASCII word boundaries, or heuristically enable Unicode word "
      ++ "boundary support or use a different regex engine"

/-- What keeps a machine for a pattern from being built. -/
def fault? (p : Pattern) : Option Fault :=
  let leaves := alternativesLeaves .start p
  if decide (depth p ≤ depthLimit) && distinct (alternativesNames p)
      && leaves.all (fun l => l.2.isTold l.1) then
    if leaves.any (fun l => l.2.isWordEdge l.1) then some .wordEdge else none
  else some .unbuilt

/-- What keeps a machine for a text from being built. -/
def textFault? (cs : List Char) : Option Fault :=
  match ofChars? cs with
  | none => some .unbuilt
  | some p => p.fault?

end RubyTree.Pattern
