/-
Reading one field of a node as JSON.

A name is a field, or else a derived name with a key, which is looked up in a hash. The result has
the members of every object in key order.
-/

import RubyTree.Outline

namespace RubyTree

/-- Whether a name is derived from a key that is not empty. -/
def isDerivedName (name : String) : Bool :=
  match derivedName? name with
  | some (_, key) => key != ""
  | none => false

/-- What a look-up found, as JSON; a missing key is null. -/
def Found.toJson : Found → Except Refusal Json
  | .pair (some n) => n.outline.map (fun v => v.toJson.sortKeys)
  | .pair none => .ok .null
  | .value (some v) => .ok v.toJson.sortKeys
  | .value none => .ok .null
  | .source text => .ok (.str text)

namespace Node

/-- The field or hash entry `name` of a node. When both are refused, the refusal is that of the
field. -/
def select (n : Node) (name : String) : Except Refusal Json :=
  match n.field name with
  | .ok reading => reading.outline.map (fun v => v.toJson.sortKeys)
  | .error refusal =>
    if isDerivedName name then
      match n.lookup name with
      | .ok found => found.toJson
      | .error _ => .error refusal
    else .error refusal

/-- The refusals met while a name is read, in order. -/
def refusals (n : Node) (name : String) : List Refusal :=
  match n.field name with
  | .ok _ => []
  | .error refusal =>
    if isDerivedName name then
      match n.lookup name with
      | .ok _ => [refusal]
      | .error second => [refusal, second]
    else [refusal]

end Node

end RubyTree
