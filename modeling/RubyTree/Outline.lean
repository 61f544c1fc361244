/-
Outlines: a tree as nested maps of named fields.

A node of a registered type is a map of its type and its fields in schema order, and a node of any
other type a map of its type and its children. Literals stay nodes. Equality of maps does not look
at the order of their entries.
-/

import RubyTree.Field.Size
import RubyTree.Json.Basic

namespace RubyTree

/-- A tree with named fields. -/
inductive Outline where
  | nil
  | sym (name : String)
  | str (text : String)
  | int (i : Int64)
  | float (x : Float)
  | bool (b : Bool)
  | list (items : List Outline)
  | map (entries : List (String × Outline))

mutual

/-- The outline of a node. It fails only when the schema names a field that the node refuses. -/
def Node.outline (n : Node) : Except Refusal Outline :=
  match Schema.fields n.type with
  | some names => do
    let entries ← names.mapM (fun name =>
      match h : n.field name with
      | .error refusal => .error refusal
      | .ok (.one c) => do
        have := Node.sizeOf_field_lt h (List.mem_singleton.mpr rfl)
        let item ← Child.outline c
        .ok (name, item)
      | .ok (.many cs) => do
        let items ← cs.attach.mapM (fun ⟨c, hc⟩ =>
          have := Node.sizeOf_field_lt h hc
          Child.outline c)
        .ok (name, .list items))
    .ok (.map (("type", .sym n.type.tag) :: entries))
  | none => do
    let items ← n.children.attach.mapM (fun ⟨c, hc⟩ =>
      have := Node.sizeOf_lt_of_mem hc
      Child.outline c)
    .ok (.map [("type", .sym n.type.tag), ("children", .list items)])
termination_by sizeOf n

def Child.outline : Child → Except Refusal Outline
  | .nil => .ok .nil
  | .node n => n.outline
  | .sym name => .ok (.sym name)
  | .str text => .ok (.str text)
  | .int i => .ok (.int i)
  | .float x => .ok (.float x)
  | .bool b => .ok (.bool b)
termination_by c => sizeOf c

end

def Reading.outline : Reading → Except Refusal Outline
  | .one c => c.outline
  | .many cs => (cs.mapM Child.outline).map .list

namespace Outline

def get? (key : String) : Outline → Option Outline
  | .map entries => entries.lookup key
  | _ => none

def items? : Outline → Option (List Outline)
  | .list items => some items
  | _ => none

mutual

/-- Equality of outlines, with floating point numbers compared by `eq`: maps are equal when they
have as many entries and equal ones under every key. -/
def beqBy (eq : Float → Float → Bool) : Outline → Outline → Bool
  | .nil, .nil => true
  | .sym a, .sym b => a == b
  | .str a, .str b => a == b
  | .int a, .int b => a == b
  | .float a, .float b => eq a b
  | .bool a, .bool b => a == b
  | .list as, .list bs => beqListBy eq as bs
  | .map as, .map bs => as.length == bs.length && beqEntriesBy eq as bs
  | _, _ => false

def beqListBy (eq : Float → Float → Bool) : List Outline → List Outline → Bool
  | [], [] => true
  | a :: as, b :: bs => beqBy eq a b && beqListBy eq as bs
  | _, _ => false

/-- Whether every entry has an equal one under its key. -/
def beqEntriesBy (eq : Float → Float → Bool) :
    List (String × Outline) → List (String × Outline) → Bool
  | [], _ => true
  | (key, a) :: as, bs =>
    (match bs.lookup key with
      | some b => beqBy eq a b
      | none => false) && beqEntriesBy eq as bs

end

instance : BEq Outline := ⟨beqBy (· == ·)⟩

mutual

/-- An outline as JSON: symbols are strings, and entries keep their order. -/
def toJson : Outline → Json
  | .nil => .null
  | .sym name => .str name
  | .str text => .str text
  | .int i => .num (.int i.toInt)
  | .float x => .num (.float x)
  | .bool b => .bool b
  | .list items => .arr (toJsonList items)
  | .map entries => .obj (toJsonEntries entries)

def toJsonList : List Outline → List Json
  | [] => []
  | v :: vs => toJson v :: toJsonList vs

def toJsonEntries : List (String × Outline) → List (String × Json)
  | [] => []
  | (key, v) :: rest => (key, toJson v) :: toJsonEntries rest

end

end Outline

end RubyTree
