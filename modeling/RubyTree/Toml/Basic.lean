/-
TOML values and the tables of a document.

A table remembers how it came to be, because that decides what may still be added to it: a header
may name a table once, unless it only exists as the parent of another one, and a dotted key may only
add to tables that dotted keys have made, though it may lead to them through others.
-/

namespace RubyTree.Toml

/-- How a table came to be: written inline, named by a header, implied by a longer header, or made
by a dotted key. -/
inductive Origin where
  | inline
  | header
  | implied
  | dotted
deriving DecidableEq

/-- A value. An integer is a signed word, and an array of tables that headers make is apart from a
written array. -/
inductive Value where
  | text (s : String)
  | int (i : Int64)
  | float
  | bool (b : Bool)
  | date
  | array (items : List Value)
  | table (origin : Origin) (entries : List (String × Value))
  | tables (items : List (List (String × Value)))

abbrev Entries : Type := List (String × Value)

namespace Value

def text? : Value → Option String
  | .text s => some s
  | _ => none

/-- The number of a value that is a whole one and not negative. -/
def natural? : Value → Option Nat
  | .int i => if 0 ≤ i.toInt then some i.toInt.toNat else none
  | _ => none

/-- The items of an array, whichever way it is written. -/
def items? : Value → Option (List Value)
  | .array items => some items
  | .tables items => some (items.map (.table .header))
  | _ => none

/-- The members of a record, which is a table or an array of its members in the order of `names`. A
date is a record without any member. -/
def members? (names : List String) (v : Value) : Option Entries :=
  match v with
  | .table _ entries => some entries
  | .date => some []
  | v => v.items?.map (fun items => names.zip items)

end Value

namespace Entries

/-- Entries with the value of a key replaced. -/
def set (key : String) (v : Value) (es : Entries) : Entries :=
  es.map (fun e => if e.1 = key then (key, v) else e)

/-- Entries with a new one under a dotted key. A table on the way is made by a dotted key or, if the
key goes on further inside of it, implied or the last of an array of tables. -/
def insert (es : Entries) : List String → Value → Option Entries
  | [], _ => none
  | [key], v =>
    match es.lookup key with
    | none => some (es ++ [(key, v)])
    | some _ => none
  | key :: next :: rest, v =>
    match es.lookup key with
    | none =>
      (insert [] (next :: rest) v).map (fun sub => es ++ [(key, .table .dotted sub)])
    | some (.table .dotted sub) =>
      (insert sub (next :: rest) v).map (fun sub' => es.set key (.table .dotted sub'))
    | some (.table .implied sub) =>
      if rest.isEmpty then none
      else (insert sub (next :: rest) v).map (fun sub' => es.set key (.table .implied sub'))
    | some (.tables items) =>
      match items.getLast? with
      | none => none
      | some last =>
        if rest.isEmpty then none
        else (insert last (next :: rest) v).map (fun last' =>
          es.set key (.tables (items.dropLast ++ [last'])))
    | some _ => none

/-- Entries in which the table at a path is changed by `f`. A table that is missing on the way is
implied, and an array of tables stands for its last one. The last key is given to `f`. -/
def descend (f : String → Entries → Option Entries) : List String → Entries → Option Entries
  | [], _ => none
  | [key], es => f key es
  | key :: next :: rest, es =>
    match es.lookup key with
    | none => (descend f (next :: rest) []).map (fun sub => es ++ [(key, .table .implied sub)])
    | some (.table .inline _) => none
    | some (.table origin sub) =>
      (descend f (next :: rest) sub).map (fun sub' => es.set key (.table origin sub'))
    | some (.tables items) =>
      match items.getLast? with
      | none => none
      | some last =>
        (descend f (next :: rest) last).map (fun last' =>
          es.set key (.tables (items.dropLast ++ [last'])))
    | some _ => none

/-- Entries in which a header has named the table at a path. -/
def openTable (path : List String) (es : Entries) : Option Entries :=
  descend (fun key es =>
    match es.lookup key with
    | none => some (es ++ [(key, .table .header [])])
    | some (.table .implied sub) => some (es.set key (.table .header sub))
    | some _ => none) path es

/-- Entries in which a header has added a table to the array of tables at a path. -/
def openElement (path : List String) (es : Entries) : Option Entries :=
  descend (fun key es =>
    match es.lookup key with
    | none => some (es ++ [(key, .tables [[]])])
    | some (.tables items) => some (es.set key (.tables (items ++ [[]])))
    | some _ => none) path es

/-- Entries in which a dotted key of the table that a header named has a value. -/
def assign (header keys : List String) (v : Value) (es : Entries) : Option Entries :=
  match header with
  | [] => es.insert keys v
  | _ =>
    descend (fun key es =>
      match es.lookup key with
      | some (.table origin sub) =>
        (insert sub keys v).map (fun sub' => es.set key (.table origin sub'))
      | some (.tables items) =>
        match items.getLast? with
        | none => none
        | some last =>
          (insert last keys v).map (fun last' => es.set key (.tables (items.dropLast ++ [last'])))
      | _ => none) header es

end Entries

end RubyTree.Toml
