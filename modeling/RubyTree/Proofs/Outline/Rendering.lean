/-
Outlines as JSON values.

`Rendered o v` says that the JSON value `v` shows the outline `o`: symbols and strings are strings
alike, a list keeps its order, and a map is an object that has each of its entries once, in
ascending order of the keys. The JSON of an outline in key order shows the outline, provided that no
map inside of it has a key twice (`Outline.rendered_sortKeys`); the outline of a node has no such
map (`Node.distinct_of_outline`).
-/

import RubyTree.Proofs.Json.KeyOrder
import RubyTree.Proofs.Outline.Provenance

namespace RubyTree

namespace Outline

mutual

/-- A JSON value shows an outline. -/
inductive Rendered : Outline → Json → Prop where
  | nil : Rendered .nil .null
  | sym (name : String) : Rendered (.sym name) (.str name)
  | str (text : String) : Rendered (.str text) (.str text)
  | int (i : Int64) : Rendered (.int i) (.num (.int i.toInt))
  | float (x : Float) : Rendered (.float x) (.num (.float x))
  | bool (b : Bool) : Rendered (.bool b) (.bool b)
  | list {items : List Outline} {vs : List Json} (h : RenderedItems items vs) :
      Rendered (.list items) (.arr vs)
  /-- The entries of a map are shown one by one and then brought into key order. -/
  | map {entries : List (String × Outline)} {shown members : List (String × Json)}
      (h : RenderedEntries entries shown) (perm : members.Perm shown)
      (order : (members.map Prod.fst).Pairwise (· < ·)) : Rendered (.map entries) (.obj members)

/-- Values show the items of a list, in order. -/
inductive RenderedItems : List Outline → List Json → Prop where
  | nil : RenderedItems [] []
  | cons {o : Outline} {v : Json} {items : List Outline} {vs : List Json} (first : Rendered o v)
      (others : RenderedItems items vs) : RenderedItems (o :: items) (v :: vs)

/-- Members show the entries of a map under their keys, in order. -/
inductive RenderedEntries : List (String × Outline) → List (String × Json) → Prop where
  | nil : RenderedEntries [] []
  | cons {key : String} {o : Outline} {v : Json} {entries : List (String × Outline)}
      {members : List (String × Json)} (first : Rendered o v)
      (others : RenderedEntries entries members) :
      RenderedEntries ((key, o) :: entries) ((key, v) :: members)

end

/-- No map inside an outline has a key twice. -/
def Distinct (o : Outline) : Prop :=
  ∀ entries, Occurs (.map entries) o → (entries.map Prod.fst).Nodup

theorem Distinct.of_get? {o v : Outline} {key : String} (h : o.Distinct)
    (found : o.get? key = some v) : v.Distinct := by
  intro entries hx
  cases o with
  | map all =>
    obtain ⟨before, after, rfl, -⟩ := List.lookup_eq_some_iff.mp found
    exact h entries (.entry (List.mem_append_right _ List.mem_cons_self) hx)
  | _ => cases found

theorem keys_toJsonEntries (entries : List (String × Outline)) :
    (toJsonEntries entries).map Prod.fst = entries.map Prod.fst := by
  induction entries with
  | nil => rw [toJsonEntries, List.map_nil, List.map_nil]
  | cons e rest ih => rw [toJsonEntries, List.map_cons, List.map_cons, ih]

theorem lookup_toJsonEntries (key : String) (entries : List (String × Outline)) :
    (toJsonEntries entries).lookup key = (entries.lookup key).map toJson := by
  induction entries with
  | nil => rw [toJsonEntries, List.lookup_nil, List.lookup_nil, Option.map_none]
  | cons e rest ih =>
    obtain ⟨other, o⟩ := e
    rw [toJsonEntries, Json.lookup_cons_ite, Json.lookup_cons_ite, ih]
    by_cases h : key = other <;> simp only [h, if_true, if_false, Option.map_some]

/-- What stands under a key stands under it in the JSON value as well. -/
theorem get?_toJson (key : String) (o : Outline) :
    o.toJson.get? key = (o.get? key).map toJson := by
  cases o with
  | map entries =>
    rw [toJson]
    exact lookup_toJsonEntries key entries
  | _ => simp [toJson, Json.get?, get?]

mutual

/-- An outline without repeated keys is shown by its JSON in key order. -/
theorem rendered_sortKeys : ∀ o : Outline, o.Distinct → Rendered o o.toJson.sortKeys
  | .nil, _ => .nil
  | .sym name, _ => .sym name
  | .str text, _ => .str text
  | .int i, _ => .int i
  | .float x, _ => .float x
  | .bool b, _ => .bool b
  | .list items, h => by
    rw [toJson, Json.sortKeys, Json.sortItems_eq_map]
    exact .list (renderedItems_sortKeys items fun o ho es hes => h es (.item ho hes))
  | .map entries, h => by
    have distinct := h entries .here
    rw [← keys_toJsonEntries] at distinct
    rw [toJson, Json.sortKeys]
    exact .map (renderedEntries_sortKeys entries fun e he es hes => h es (.entry he hes))
      (Json.perm_sortMembers distinct) (Json.pairwise_sortMembers _)

theorem renderedItems_sortKeys : ∀ items : List Outline, (∀ o ∈ items, o.Distinct) →
    RenderedItems items ((toJsonList items).map Json.sortKeys)
  | [], _ => .nil
  | o :: items, h => by
    rw [toJsonList, List.map_cons]
    obtain ⟨first, others⟩ := List.forall_mem_cons.mp h
    exact .cons (rendered_sortKeys o first) (renderedItems_sortKeys items others)

theorem renderedEntries_sortKeys : ∀ entries : List (String × Outline),
    (∀ e ∈ entries, e.2.Distinct) →
      RenderedEntries entries ((toJsonEntries entries).map fun m => (m.1, m.2.sortKeys))
  | [], _ => .nil
  | (key, o) :: entries, h => by
    rw [toJsonEntries, List.map_cons]
    obtain ⟨first, others⟩ := List.forall_mem_cons.mp h
    exact .cons (rendered_sortKeys o first) (renderedEntries_sortKeys entries others)

end

end Outline

/-- The outline of a node has no key twice, at any depth. -/
theorem Node.distinct_of_outline {n : Node} {o : Outline} (h : n.outline = .ok o) :
    o.Distinct := by
  intro entries hx
  obtain ⟨path, m, -, hm⟩ := Node.exists_atPath?_of_occurs h hx
  rw [Node.keys_of_outline hm]
  exact Schema.nodup_outlineKeys m.type

end RubyTree
