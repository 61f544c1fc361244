/-
Tags and types.

`NodeType.all` lists every type, so a table over the types is checked along that list. No two types
share a tag: reading a tag undoes writing it, and `NodeType.ofTag?_eq_some_iff` says which type a
tag stands for.
-/

import RubyTree.NodeType

namespace RubyTree.NodeType

theorem mem_all (t : NodeType) : t ∈ all := by
  cases t <;> decide

theorem ofTag?_tag (t : NodeType) : ofTag? t.tag = some t := by
  have table : ∀ t ∈ all, ofTag? t.tag = some t := by decide +kernel
  exact table t (mem_all t)

/-- A tag stands for the type that writes it, and for no other. -/
theorem ofTag?_eq_some_iff {s : String} {t : NodeType} : ofTag? s = some t ↔ t.tag = s := by
  constructor
  · intro h
    have := List.find?_some h
    simpa using this
  · intro h
    rw [← h]
    exact ofTag?_tag t

theorem tag_inj {s t : NodeType} (h : s.tag = t.tag) : s = t :=
  Option.some.inj ((ofTag?_tag s).symm.trans (ofTag?_eq_some_iff.mpr h.symm))

end RubyTree.NodeType
