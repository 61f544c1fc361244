/-
Suggestions for a misspelled field.

The suggestion for a name is the closest other field of the type, at most `Schema.reach` edits
away; of equally close fields the first one of the schema.
-/

import RubyTree.Schema
import RubyTree.Text.EditDistance

namespace RubyTree.Schema

/-- The largest number of edits between a name and its suggestion. -/
def reach : Nat := 2

/-- The first element with the least key. -/
def firstLeast {α : Type} (key : α → Nat) : List α → Option α
  | [] => none
  | a :: rest =>
    match firstLeast key rest with
    | none => some a
    | some b => if key b < key a then some b else some a

/-- The fields of a type within reach of `field`, `field` itself left out, with their distances. -/
def candidates (type : NodeType) (field : String) : List (String × Nat) :=
  ((fields type).getD []).filterMap (fun name =>
    if name == field then none
    else (Text.EditDistance.upTo? reach name field).map (fun edits => (name, edits)))

/-- The field of a type that is closest to `field`. -/
def closest? (type : NodeType) (field : String) : Option String :=
  (firstLeast Prod.snd (candidates type field)).map Prod.fst

end RubyTree.Schema
