/-
Objects in key order.

`Json.put` changes what is found under its own key only, and keeps ascending keys ascending. So an
object in key order has ascending keys, the same value under each key up to the order inside of it
(`lookup_sortMembers`), and, when its keys are distinct, each of its members once
(`perm_sortMembers`).
-/

import RubyTree.Json.Basic

namespace RubyTree

/-- Under a key that no other entry has stands the value of its entry. -/
theorem lookup_eq_some_of_mem {α β : Type} [BEq α] [LawfulBEq α] {entries : List (α × β)} {key : α}
    {value : β} (nodup : (entries.map Prod.fst).Nodup) (h : (key, value) ∈ entries) :
    entries.lookup key = some value := by
  induction entries with
  | nil => cases h
  | cons e rest ih =>
    obtain ⟨other, v⟩ := e
    obtain ⟨fresh, nodup⟩ := List.nodup_cons.mp nodup
    rcases List.mem_cons.mp h with heq | h
    · cases heq
      exact List.lookup_cons_self
    · have different : key ≠ other := fun same => fresh (List.mem_map.mpr ⟨_, h, same⟩)
      rw [List.lookup_cons, beq_eq_false_iff_ne.mpr different]
      exact ih nodup h

namespace Json

theorem lookup_cons_ite {α : Type} (k other : String) (v : α) (rest : List (String × α)) :
    List.lookup k ((other, v) :: rest) = if k = other then some v else rest.lookup k := by
  rw [List.lookup_cons]
  by_cases h : k = other
  · simp [h]
  · rw [beq_eq_false_iff_ne.mpr h, if_neg h]

/-! ### One more member -/

/-- A member that is put in is found, and the others stay. -/
theorem lookup_put (key k : String) (value : Json) (members : List (String × Json)) :
    (put key value members).lookup k = if k = key then some value else members.lookup k := by
  induction members with
  | nil => rw [put, lookup_cons_ite]
  | cons m rest ih =>
    obtain ⟨other, v⟩ := m
    unfold put
    split
    · rw [lookup_cons_ite]
    split
    · rename_i same
      subst same
      rw [lookup_cons_ite, lookup_cons_ite]
      by_cases h : k = key <;> simp only [h, if_true, if_false]
    · rename_i different
      rw [lookup_cons_ite, lookup_cons_ite, ih]
      by_cases h : k = other
      · subst h
        rw [if_pos rfl, if_neg (Ne.symm different), if_pos rfl]
      · rw [if_neg h, if_neg h]

theorem mem_keys_put {key k : String} {value : Json} {members : List (String × Json)} :
    k ∈ (put key value members).map Prod.fst ↔ k = key ∨ k ∈ members.map Prod.fst := by
  induction members with
  | nil => simp [put]
  | cons m rest ih =>
    obtain ⟨other, v⟩ := m
    unfold put
    split
    · simp
    split
    · rename_i same
      subst same
      simp
    · rw [List.map_cons, List.mem_cons, ih, List.map_cons, List.mem_cons]
      exact or_left_comm

/-- Ascending keys stay ascending. -/
theorem pairwise_put (key : String) (value : Json) {members : List (String × Json)}
    (h : (members.map Prod.fst).Pairwise (· < ·)) :
    ((put key value members).map Prod.fst).Pairwise (· < ·) := by
  induction members with
  | nil => simp [put]
  | cons m rest ih =>
    obtain ⟨other, v⟩ := m
    obtain ⟨below, ascending⟩ := List.pairwise_cons.mp h
    unfold put
    split
    · rename_i less
      refine List.pairwise_cons.mpr ⟨fun k hk => ?_, h⟩
      rcases List.mem_cons.mp hk with rfl | hk
      · exact less
      · exact String.lt_trans less (below k hk)
    split
    · rename_i same
      subst same
      exact h
    · rename_i notLess different
      refine List.pairwise_cons.mpr ⟨fun k hk => ?_, ih ascending⟩
      rcases mem_keys_put.mp hk with rfl | hk
      · refine Decidable.byContradiction fun notGreater => different ?_
        exact String.le_antisymm (String.not_lt.mp notGreater) (String.not_lt.mp notLess)
      · exact below k hk

/-- A new key adds a member and keeps the others. -/
theorem perm_put {key : String} (value : Json) {members : List (String × Json)}
    (new : key ∉ members.map Prod.fst) :
    (put key value members).Perm ((key, value) :: members) := by
  induction members with
  | nil => exact .refl _
  | cons m rest ih =>
    obtain ⟨other, v⟩ := m
    rw [List.map_cons, List.mem_cons, not_or] at new
    unfold put
    split
    · exact .refl _
    · rw [if_neg new.1]
      exact ((ih new.2).cons _).trans (.swap _ _ _)

/-! ### All members -/

/-- Sorting keeps what a key leads to, with the objects in it sorted too. -/
theorem lookup_sortMembers (k : String) (members : List (String × Json)) :
    (sortMembers members).lookup k = (members.lookup k).map sortKeys := by
  induction members with
  | nil => simp [sortMembers]
  | cons m rest ih =>
    obtain ⟨other, v⟩ := m
    rw [sortMembers, lookup_put, ih, lookup_cons_ite]
    by_cases h : k = other <;> simp only [h, if_true, if_false, Option.map_some]

theorem get?_sortKeys (k : String) (v : Json) : v.sortKeys.get? k = (v.get? k).map sortKeys := by
  cases v with
  | obj members =>
    rw [sortKeys]
    exact lookup_sortMembers k members
  | _ => simp [sortKeys, get?]

/-- Sorted members have ascending keys, so no key stands twice. -/
theorem pairwise_sortMembers (members : List (String × Json)) :
    ((sortMembers members).map Prod.fst).Pairwise (· < ·) := by
  induction members with
  | nil => simp [sortMembers]
  | cons m rest ih =>
    rw [sortMembers]
    exact pairwise_put _ _ ih

theorem mem_keys_sortMembers {k : String} {members : List (String × Json)} :
    k ∈ (sortMembers members).map Prod.fst ↔ k ∈ members.map Prod.fst := by
  induction members with
  | nil => simp [sortMembers]
  | cons m rest ih =>
    obtain ⟨other, v⟩ := m
    rw [sortMembers, mem_keys_put, ih, List.map_cons, List.mem_cons]

/-- Members with distinct keys are all kept, each with its objects in key order. -/
theorem perm_sortMembers {members : List (String × Json)}
    (distinct : (members.map Prod.fst).Nodup) :
    (sortMembers members).Perm (members.map fun m => (m.1, m.2.sortKeys)) := by
  induction members with
  | nil => simp [sortMembers]
  | cons m rest ih =>
    obtain ⟨key, v⟩ := m
    obtain ⟨new, distinct⟩ := List.nodup_cons.mp distinct
    rw [sortMembers]
    refine (perm_put _ ?_).trans ((ih distinct).cons _)
    rw [mem_keys_sortMembers]
    exact new

theorem sortItems_eq_map (items : List Json) : sortItems items = items.map sortKeys := by
  induction items with
  | nil => rw [sortItems, List.map_nil]
  | cons v rest ih => rw [sortItems, List.map_cons, ih]

end Json

end RubyTree
