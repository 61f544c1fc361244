/-
Child paths and their texts.

The text of a path has no white space, and its points stand between the digits of its indices. So
its parts are the indices as they were written, and reading it gives the path back, as long as every
index is below the bound (`parse_format`).
-/

import RubyTree.ChildPath

namespace RubyTree

/-- Nothing is trimmed where nothing is white space. -/
theorem Text.trimChars_eq_self {cs : List Char} (h : ∀ c ∈ cs, isBlank c = false) :
    trimChars cs = cs := by
  have keeps : ∀ ds : List Char, (∀ c ∈ ds, isBlank c = false) → ds.dropWhile isBlank = ds := by
    intro ds h
    cases ds with
    | nil => rfl
    | cons d ds => rw [List.dropWhile_cons_of_neg (by simp [h d List.mem_cons_self])]
  rw [trimChars, keeps cs h, keeps _ fun c hc => h c (List.mem_reverse.mp hc), List.reverse_reverse]

theorem Text.isBlank_of_isDigit {c : Char} (h : c.isDigit = true) : isBlank c = false := by
  obtain ⟨low, high⟩ : 48 ≤ c.toNat ∧ c.toNat ≤ 57 := Char.isDigit_iff_toNat.mp h
  simp only [isBlank, blankRanges, List.any_eq_false, List.mem_cons, List.not_mem_nil, or_false,
    Bool.and_eq_true, decide_eq_true_eq, not_and]
  rintro r (rfl | rfl | rfl | rfl | rfl | rfl | rfl | rfl | rfl | rfl) <;> simp only <;> omega

namespace ChildPath

/-! ### Indices -/

theorem isDigit_of_mem_toDigits {n : Nat} {c : Char} (h : c ∈ Nat.toDigits 10 n) :
    c.isDigit = true :=
  Nat.isDigit_of_mem_toDigits (by decide) (by decide) h

theorem point_not_mem_toDigits (n : Nat) : '.' ∉ Nat.toDigits 10 n :=
  fun h => absurd (isDigit_of_mem_toDigits h) (by decide)

/-- The digits of an index stand for it. -/
theorem index?_toDigits {i : Nat} (h : i < bound) : index? (Nat.toDigits 10 i) = some i := by
  have unsigned : ∀ rest, Nat.toDigits 10 i ≠ '+' :: rest := by
    intro rest heq
    have plus : '+' ∈ Nat.toDigits 10 i := by rw [heq]; exact List.mem_cons_self
    exact absurd (isDigit_of_mem_toDigits plus) (by decide)
  have digits : (Nat.toDigits 10 i).all Char.isDigit = true :=
    List.all_eq_true.mpr fun c => isDigit_of_mem_toDigits
  have value : Decimal.ofDigits (Nat.toDigits 10 i) = i :=
    Nat.ofDigitChars_toDigits (by decide) (by decide)
  have nonempty : (Nat.toDigits 10 i).isEmpty = false :=
    List.isEmpty_eq_false_iff.mpr Nat.toDigits_ne_nil
  unfold index?
  split
  · rename_i heq
    exact absurd heq (unsigned _)
  · simp [digits?, nonempty, digits, value, h]

/-- The digits of unsigned words are read back as these words. -/
theorem indices_map_toDigits {path : List Nat} (h : ∀ i ∈ path, i < bound) :
    indices (path.map (Nat.toDigits 10)) = .ok path := by
  induction path with
  | nil => rfl
  | cons i path ih =>
    obtain ⟨first, others⟩ := List.forall_mem_cons.mp h
    rw [List.map_cons, indices, index?_toDigits first, ih others]
    rfl

/-! ### Parts -/

theorem parts_of_no_point {p : List Char} (h : '.' ∉ p) : parts p = [p] := by
  induction p with
  | nil => rfl
  | cons c p ih =>
    rw [List.mem_cons, not_or] at h
    rw [parts, if_neg (Ne.symm h.1), ih h.2]

/-- A point ends the first part. -/
theorem parts_append_point {p : List Char} (h : '.' ∉ p) (rest : List Char) :
    parts (p ++ '.' :: rest) = p :: parts rest := by
  induction p with
  | nil => rw [List.nil_append, parts, if_pos rfl]
  | cons c p ih =>
    rw [List.mem_cons, not_or] at h
    rw [List.cons_append, parts, if_neg (Ne.symm h.1), ih h.2]

/-- Parts without points are found again between the points that join them. -/
theorem parts_intercalate {p : List Char} {ps : List (List Char)} (h : ∀ q ∈ p :: ps, '.' ∉ q) :
    parts (['.'].intercalate (p :: ps)) = p :: ps := by
  induction ps generalizing p with
  | nil =>
    rw [List.intercalate_singleton]
    exact parts_of_no_point (h p List.mem_cons_self)
  | cons q ps ih =>
    obtain ⟨first, others⟩ := List.forall_mem_cons.mp h
    rw [List.intercalate_cons_cons, List.append_assoc, List.singleton_append,
      parts_append_point first, ih others]

/-- Joined parts consist of points and of the characters of the parts. -/
theorem forall_mem_intercalate {P : Char → Prop} (point : P '.') {ps : List (List Char)}
    (h : ∀ p ∈ ps, ∀ c ∈ p, P c) : ∀ c ∈ ['.'].intercalate ps, P c := by
  induction ps with
  | nil => nofun
  | cons p ps ih =>
    obtain ⟨first, others⟩ := List.forall_mem_cons.mp h
    cases ps with
    | nil =>
      rw [List.intercalate_singleton]
      exact first
    | cons q ps =>
      rw [List.intercalate_cons_cons]
      simp only [List.forall_mem_append, List.forall_mem_singleton]
      exact ⟨⟨first, point⟩, ih others⟩

/-! ### Texts -/

/-- The characters of the text of a path that is not empty. -/
theorem toList_format_cons (i : Nat) (path : List Nat) :
    (format (i :: path)).toList = ['.'].intercalate ((i :: path).map (Nat.toDigits 10)) := by
  have digits : (i :: path).map (String.toList ∘ toString) =
      (i :: path).map (Nat.toDigits 10) := by
    refine List.map_congr_left fun j _ => ?_
    rw [Function.comp_apply, Nat.toString_eq_repr, Nat.toList_repr]
  rw [format, String.toList_intercalate, List.map_map, digits]
  · rfl
  · nofun

/-- Reading the text of a path gives the path back. -/
theorem parse_format {path : List Nat} (h : ∀ i ∈ path, i < bound) :
    parse (format path) = .ok path := by
  cases path with
  | nil => rfl
  | cons i path =>
    have blanks : ∀ c ∈ (format (i :: path)).toList, Text.isBlank c = false := by
      rw [toList_format_cons]
      refine forall_mem_intercalate (by decide) fun p hp c hc => ?_
      obtain ⟨j, -, rfl⟩ := List.mem_map.mp hp
      exact Text.isBlank_of_isDigit (isDigit_of_mem_toDigits hc)
    have split : parts (format (i :: path)).toList = (i :: path).map (Nat.toDigits 10) := by
      rw [toList_format_cons]
      refine parts_intercalate fun q hq => ?_
      rw [← List.map_cons] at hq
      obtain ⟨j, -, rfl⟩ := List.mem_map.mp hq
      exact point_not_mem_toDigits j
    -- the texts that stand for the empty path have an empty first part
    have notRoot : ¬ ((format (i :: path)).toList = [] ∨ (format (i :: path)).toList = ['.']) := by
      rintro (root | root) <;> rw [root] at split <;>
        exact Nat.toDigits_ne_nil (List.cons.inj split).1.symm
    rw [parse, Text.trimChars_eq_self blanks, if_neg notRoot, split]
    exact indices_map_toDigits h

end ChildPath

end RubyTree
