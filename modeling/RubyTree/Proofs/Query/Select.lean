/-
One field of a node, by itself and in the outline of the node.

A field that is selected is the outline of what it holds, as JSON in key order
(`Node.select_of_field`). The outline of the whole node has the same outline under the name of the
field (`Node.get?_of_outline`), and bringing it into key order changes what is under no name. So
selecting a field and looking it up in the outline of the node come to the same.
-/

import RubyTree.Proofs.Outline.Rendering
import RubyTree.Query.Select

namespace RubyTree.Node

/-- A field is selected as the outline of what it holds. -/
theorem select_of_field {n : Node} {name : String} {r : Reading} (h : n.field name = .ok r) :
    n.select name = r.outline.map (fun v => v.toJson.sortKeys) := by
  unfold select
  rw [h]

/-- Among the entries of a node, the field of a name is found under that name. -/
theorem lookup_entry {n : Node} {names : List String} {entries : List (String × Outline)}
    (h : List.Forall₂ (fun name e => n.entry name = .ok e) names entries) {name : String}
    (mem : name ∈ names) :
    ∃ r v, n.field name = .ok r ∧ r.outline = .ok v ∧ entries.lookup name = some v := by
  induction h with
  | nil => cases mem
  | @cons other e _ _ he _ ih =>
    obtain ⟨r, v, hr, hv, rfl⟩ := entry_eq_ok_iff.mp he
    rw [Json.lookup_cons_ite]
    by_cases same : name = other
    · subst same
      exact ⟨r, v, hr, hv, if_pos rfl⟩
    · rw [if_neg same]
      exact ih ((List.mem_cons.mp mem).resolve_left same)

/-- The outline of a node has the outline of each of its fields under the name of the field. -/
theorem get?_of_outline {n : Node} {o : Outline} (h : n.outline = .ok o) {name : String}
    (has : Schema.Has n.type name) :
    ∃ r v, n.field name = .ok r ∧ r.outline = .ok v ∧ o.get? name = some v := by
  obtain ⟨names, hf, mem⟩ := has
  have hf : Schema.fields n.type = some names := hf
  obtain ⟨entries, rfl, hentries⟩ := outline_eq_ok_iff.mp h
  rw [hf] at hentries
  obtain ⟨r, v, hr, hv, found⟩ := lookup_entry hentries mem
  refine ⟨r, v, hr, hv, ?_⟩
  -- no field is called `type`, so the first entry is passed over
  have keys := Schema.nodup_outlineKeys n.type
  rw [Schema.outlineKeys, hf] at keys
  have other : name ≠ "type" := fun heq => (List.nodup_cons.mp keys).1 (heq ▸ mem)
  rw [Outline.get?, Json.lookup_cons_ite, if_neg other]
  exact found

/-- **Selecting a field agrees with the outline of the node.** Every node has an outline, whose JSON
in key order shows it: each entry of each map once, and symbols and strings as strings. Every field
of its type can be selected, and the value is the member of that name in the JSON of the outline: it
shows what the outline has under the name, which is the outline of the child in the field, or the
list of the outlines of the children in it, one by one. -/
theorem select_eq_outline_member (n : Node) :
    ∃ o, n.outline = .ok o ∧ o.Rendered o.toJson.sortKeys ∧
      ∀ name, Schema.Has n.type name → ∃ v shown,
        n.select name = .ok v ∧ o.toJson.sortKeys.get? name = some v ∧
          o.get? name = some shown ∧ shown.Rendered v ∧
          (∀ c, n.field name = .ok (.one c) → c.outline = .ok shown) ∧
          (∀ cs, n.field name = .ok (.many cs) → ∃ items, shown = .list items ∧
            List.Forall₂ (fun c item => c.outline = .ok item) cs items) := by
  obtain ⟨o, ho⟩ := n.exists_outline
  have distinct := distinct_of_outline ho
  refine ⟨o, ho, o.rendered_sortKeys distinct, fun name has => ?_⟩
  obtain ⟨r, shown, hr, hshown, found⟩ := get?_of_outline ho has
  refine ⟨shown.toJson.sortKeys, shown, ?_, ?_, found, ?_, ?_, ?_⟩
  · rw [select_of_field hr, hshown]
    rfl
  · rw [Json.get?_sortKeys, Outline.get?_toJson, found]
    rfl
  · exact shown.rendered_sortKeys (distinct.of_get? found)
  · intro c hc
    rw [hr] at hc
    cases hc
    exact hshown
  · intro cs hcs
    rw [hr] at hcs
    cases hcs
    obtain ⟨items, hitems, rfl⟩ := Outcome.map_eq_ok_iff.mp hshown
    exact ⟨items, rfl, Outcome.mapM_eq_ok_iff.mp hitems⟩

end RubyTree.Node
