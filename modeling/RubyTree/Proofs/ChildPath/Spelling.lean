/-
Which texts are child paths.

`Text.Trims text core` says what is left of a text without the white space around it,
`Dotted text parts` what stands between the points of a text, and `Spells part i` how an index may
be written; none of them mentions the reading.

* `Text.trim_eq_iff` — trimming leaves what stands between the white space.
* `dotted_iff` — the parts of a text are the only ones without points that join to it.
* `index?_eq_some_iff` — a part is read as an index exactly when it spells it.
* `parse_eq_ok_iff` — a text is a path exactly when, trimmed, it is one of the two spellings of the
  root or its parts spell the indices.

A part that spells nothing ends the reading, so a text with one is refused, except for the two
spellings of the root, whose parts are empty.
-/

import Mathlib.Algebra.Group.Nat.Defs
import Mathlib.Data.List.Forall2
import Mathlib.Data.List.TakeWhile
import RubyTree.Proofs.ChildPath
import RubyTree.Proofs.Outcome

namespace RubyTree

/-! ### Trimmed texts -/

namespace Text

/-- A text with white space at its ends, and what is left of it, which neither begins nor ends with
white space. -/
structure Trims (text core : String) : Prop where
  around : ∃ before after : String, text = before ++ core ++ after ∧
    (∀ c ∈ before.toList, isBlank c = true) ∧ ∀ c ∈ after.toList, isBlank c = true
  first : ∀ c ∈ core.toList.head?, isBlank c = false
  last : ∀ c ∈ core.toList.getLast?, isBlank c = false

/-- White space around characters that neither begin nor end with it is what trimming drops. -/
theorem trimChars_append {before core after : List Char}
    (hbefore : ∀ c ∈ before, isBlank c = true) (hafter : ∀ c ∈ after, isBlank c = true)
    (first : ∀ c ∈ core.head?, isBlank c = false) (last : ∀ c ∈ core.getLast?, isBlank c = false) :
    trimChars (before ++ core ++ after) = core := by
  have keeps : ∀ cs : List Char, (∀ c ∈ cs.head?, isBlank c = false) → ∀ ds, cs ≠ [] →
      (cs ++ ds).dropWhile isBlank = cs ++ ds := by
    intro cs h ds nonempty
    obtain ⟨c, cs, rfl⟩ := List.exists_cons_of_ne_nil nonempty
    rw [List.cons_append, List.dropWhile_cons_of_neg (by simp [h c rfl])]
  rw [trimChars, List.append_assoc, List.dropWhile_append_of_pos hbefore]
  by_cases empty : core = []
  · rw [empty, List.nil_append, List.dropWhile_eq_nil_iff.mpr hafter]
    rfl
  · have reversed : core.reverse ≠ [] := fun h => empty (List.reverse_eq_nil_iff.mp h)
    rw [keeps core first after empty, List.reverse_append, List.dropWhile_append_of_pos,
      ← core.reverse.append_nil, keeps core.reverse _ [] reversed, List.append_nil,
      List.reverse_reverse]
    · rwa [List.head?_reverse]
    · intro c hc
      exact hafter c (List.mem_reverse.mp hc)

theorem isBlank_head_dropWhile {cs : List Char} {c : Char}
    (h : (cs.dropWhile isBlank).head? = some c) : isBlank c = false := by
  have head := List.head?_dropWhile_not isBlank cs
  rw [h] at head
  exact head

/-- Trimming takes the white space at both ends and nothing else. -/
theorem trims_trim (text : String) : Trims text (trim text) := by
  let rest := text.toList.dropWhile isBlank
  let core := rest.reverse.dropWhile isBlank
  have htrim : (trim text).toList = core.reverse := String.toList_ofList
  have htext : text.toList = text.toList.takeWhile isBlank ++ rest :=
    List.takeWhile_append_dropWhile.symm
  have hrest : rest = core.reverse ++ (rest.reverse.takeWhile isBlank).reverse := by
    rw [← List.reverse_append, List.takeWhile_append_dropWhile, List.reverse_reverse]
  refine ⟨⟨String.ofList (text.toList.takeWhile isBlank),
    String.ofList (rest.reverse.takeWhile isBlank).reverse, ?_, ?_, ?_⟩, ?_, ?_⟩
  · apply String.toList_injective
    rw [String.toList_append, String.toList_append, htrim, String.toList_ofList,
      String.toList_ofList, List.append_assoc, ← hrest, ← htext]
  · intro c hc
    rw [String.toList_ofList] at hc
    exact List.mem_takeWhile_imp hc
  · intro c hc
    rw [String.toList_ofList, List.mem_reverse] at hc
    exact List.mem_takeWhile_imp hc
  · -- what is left begins as the text without its first white space does
    intro c hc
    rw [htrim] at hc
    have head : rest.head? = some c := by
      rw [hrest]
      exact List.mem_head?_append_of_mem_head? hc
    exact isBlank_head_dropWhile head
  · intro c hc
    rw [htrim, List.getLast?_reverse] at hc
    exact isBlank_head_dropWhile hc

/-- Trimming leaves what stands between the white space at the ends. -/
theorem trim_eq_iff {text core : String} : trim text = core ↔ Trims text core := by
  constructor
  · rintro rfl
    exact trims_trim text
  · rintro ⟨⟨before, after, rfl, hbefore, hafter⟩, first, last⟩
    rw [trim, String.toList_append, String.toList_append,
      trimChars_append hbefore hafter first last, String.ofList_toList]

end Text

namespace ChildPath

/-! ### How indices are written -/

/-- Decimal digits, at least one of them, with the value `i`. -/
structure IsNumeral (ds : List Char) (i : Nat) : Prop where
  nonempty : ds ≠ []
  digits : ∀ c ∈ ds, c.isDigit = true
  value : Nat.ofDigitChars 10 ds 0 = i

/-- A part of a path spells an index: digits whose value is an unsigned word, and a plus sign before
them or not. -/
inductive Spells : String → Nat → Prop where
  | plain {ds : List Char} {i : Nat} (numeral : IsNumeral ds i) (word : i < 2 ^ 64) :
      Spells (String.ofList ds) i
  | signed {ds : List Char} {i : Nat} (numeral : IsNumeral ds i) (word : i < 2 ^ 64) :
      Spells (String.ofList ('+' :: ds)) i

/-- A part of a path that cannot be an index: it is empty, has a minus sign or white space, or its
digits are too many for an unsigned word. -/
inductive Unfit : String → Prop where
  | empty : Unfit ""
  | negative (rest : String) : Unfit ("-" ++ rest)
  | blank {part : String} {c : Char} (mem : c ∈ part.toList) (h : Text.isBlank c = true) :
      Unfit part
  | overflow {ds : List Char} {i : Nat} (numeral : IsNumeral ds i) (large : 2 ^ 64 ≤ i) :
      Unfit (String.ofList ds)
  | signedOverflow {ds : List Char} {i : Nat} (numeral : IsNumeral ds i) (large : 2 ^ 64 ≤ i) :
      Unfit (String.ofList ('+' :: ds))

/-- A text is a list of parts, at least one, with points between them and none inside. -/
structure Dotted (text : String) (parts : List String) : Prop where
  nonempty : parts ≠ []
  apart : ∀ part ∈ parts, '.' ∉ part.toList
  joined : ".".intercalate parts = text

/-! ### Indices -/

section Indices

variable {ds : List Char} {i : Nat}

theorem IsNumeral.unsigned (h : IsNumeral ds i) (rest : List Char) : ds ≠ '+' :: rest := by
  rintro rfl
  exact absurd (h.digits _ List.mem_cons_self) (by decide)

/-- Without a plus sign in front, a part spells its value when it is decimal digits. -/
theorem spells_plain_iff (unsigned : ∀ rest, ds ≠ '+' :: rest) :
    Spells (String.ofList ds) i ↔ IsNumeral ds i ∧ i < 2 ^ 64 := by
  constructor
  · generalize hp : String.ofList ds = part
    intro h
    cases h with
    | plain numeral word =>
      obtain rfl := String.ofList_injective hp
      exact ⟨numeral, word⟩
    | signed _ _ => exact absurd (String.ofList_injective hp) (unsigned _)
  · rintro ⟨numeral, word⟩
    exact .plain numeral word

/-- One plus sign in front of the digits changes nothing. -/
theorem spells_signed_iff :
    Spells (String.ofList ('+' :: ds)) i ↔ IsNumeral ds i ∧ i < 2 ^ 64 := by
  constructor
  · generalize hp : String.ofList ('+' :: ds) = part
    intro h
    cases h with
    | plain numeral _ => exact absurd (String.ofList_injective hp).symm (numeral.unsigned _)
    | signed numeral word =>
      obtain rfl := (List.cons.inj (String.ofList_injective hp)).2
      exact ⟨numeral, word⟩
  · rintro ⟨numeral, word⟩
    exact .signed numeral word

/-- The reader of digits accepts numerals only, and gives their value. -/
theorem digits?_eq_some_iff : digits? ds = some i ↔ IsNumeral ds i := by
  unfold digits?
  constructor
  · intro h
    split at h
    · cases h
    · rename_i proper
      rw [Bool.or_eq_true, Bool.not_eq_true', not_or, Bool.not_eq_false, List.isEmpty_iff,
        List.all_eq_true] at proper
      exact ⟨proper.1, proper.2, Option.some.inj h⟩
  · rintro ⟨nonempty, digits, rfl⟩
    have all : ds.all Char.isDigit = true := List.all_eq_true.mpr digits
    have someDigit : ds.isEmpty = false := List.isEmpty_eq_false_iff.mpr nonempty
    rw [all, someDigit]
    rfl

/-- A part is read as an index exactly when it spells it. -/
theorem index?_eq_some_iff {p : List Char} : index? p = some i ↔ Spells (String.ofList p) i := by
  have word : ∀ ds, (digits? ds).filter (fun n => decide (n < bound)) = some i ↔
      IsNumeral ds i ∧ i < 2 ^ 64 := by
    intro ds
    rw [Option.filter_eq_some_iff, digits?_eq_some_iff, decide_eq_true_iff]
    exact Iff.rfl
  unfold index?
  split
  · exact (word _).trans spells_signed_iff.symm
  · rename_i unsigned
    exact (word _).trans (spells_plain_iff unsigned).symm

/-- A part that spells an index has digits and plus signs only. -/
theorem Spells.mem_chars {part : String} (h : Spells part i) {c : Char} (hc : c ∈ part.toList) :
    c = '+' ∨ c.isDigit = true := by
  cases h with
  | plain numeral _ =>
    rw [String.toList_ofList] at hc
    exact .inr (numeral.digits c hc)
  | signed numeral _ =>
    rw [String.toList_ofList, List.mem_cons] at hc
    exact hc.imp_right (numeral.digits c)

/-- A part that is unfit spells no index. -/
theorem Unfit.not_spells {part : String} (h : Unfit part) : ¬ Spells part i := by
  intro spelled
  cases h with
  | empty =>
    have unsigned : ∀ rest : List Char, [] ≠ '+' :: rest := fun rest =>
      (List.cons_ne_nil _ rest).symm
    have numeral : IsNumeral [] i := ((spells_plain_iff unsigned).mp spelled).1
    exact numeral.nonempty rfl
  | negative rest =>
    have minus : '-' ∈ ("-" ++ rest).toList := by
      rw [String.toList_append]
      exact List.mem_cons_self
    rcases spelled.mem_chars minus with h | h <;> exact absurd h (by decide)
  | blank mem blank =>
    rcases spelled.mem_chars mem with rfl | digit
    · exact absurd blank (by decide)
    · rw [Text.isBlank_of_isDigit digit] at blank
      cases blank
  | overflow numeral large =>
    obtain ⟨same, word⟩ := (spells_plain_iff numeral.unsigned).mp spelled
    rw [← same.value, numeral.value] at word
    exact absurd word (Nat.not_lt.mpr large)
  | signedOverflow numeral large =>
    obtain ⟨same, word⟩ := spells_signed_iff.mp spelled
    rw [← same.value, numeral.value] at word
    exact absurd word (Nat.not_lt.mpr large)

end Indices

/-! ### Parts -/

/-- Parts are read as a path when each of them spells the index at its place. -/
theorem indices_eq_ok_iff {ps : List (List Char)} {path : List Nat} :
    indices ps = .ok path ↔ List.Forall₂ Spells (ps.map String.ofList) path := by
  induction ps generalizing path with
  | nil =>
    rw [List.map_nil, List.forall₂_nil_left_iff, indices, Except.ok.injEq, eq_comm]
  | cons p ps ih =>
    rw [List.map_cons, List.forall₂_cons_left_iff, indices]
    constructor
    · intro h
      split at h
      · cases h
      · rename_i i hi
        obtain ⟨others, hothers, rfl⟩ := Outcome.map_eq_ok_iff.mp h
        exact ⟨i, others, index?_eq_some_iff.mp hi, ih.mp hothers, rfl⟩
    · rintro ⟨i, others, first, hothers, rfl⟩
      rw [index?_eq_some_iff.mpr first, ih.mpr hothers]
      rfl

/-- When the parts are refused, it is for one of them that spells no index. -/
theorem indices_eq_error {ps : List (List Char)} {part : String} (h : indices ps = .error part) :
    part ∈ ps.map String.ofList ∧ ∀ i, ¬ Spells part i := by
  induction ps with
  | nil => cases h
  | cons p ps ih =>
    rw [indices] at h
    split at h
    · rename_i none
      cases h
      refine ⟨List.mem_cons_self, fun i spelled => ?_⟩
      rw [index?_eq_some_iff.mpr spelled] at none
      cases none
    · cases hps : indices ps with
      | ok others =>
        rw [hps] at h
        cases h
      | error e =>
        rw [hps] at h
        cases h
        obtain ⟨mem, notSpelled⟩ := ih hps
        exact ⟨List.mem_cons_of_mem _ mem, notSpelled⟩

/-- The parts of a text have no points, and the text is the parts with points between them. -/
theorem parts_spec (cs : List Char) :
    parts cs ≠ [] ∧ (∀ p ∈ parts cs, '.' ∉ p) ∧ ['.'].intercalate (parts cs) = cs := by
  induction cs with
  | nil => simp [parts]
  | cons c cs ih =>
    obtain ⟨nonempty, apart, joined⟩ := ih
    obtain ⟨p, ps, hps⟩ := List.exists_cons_of_ne_nil nonempty
    rw [hps] at apart joined
    rw [parts, hps]
    split
    · rename_i point
      refine ⟨List.cons_ne_nil _ _, List.forall_mem_cons.mpr ⟨List.not_mem_nil, apart⟩, ?_⟩
      rw [List.intercalate_cons_cons, joined, point]
      rfl
    · rename_i other
      obtain ⟨first, others⟩ := List.forall_mem_cons.mp apart
      have first' : '.' ∉ c :: p := by
        rw [List.mem_cons, not_or]
        exact ⟨Ne.symm other, first⟩
      refine ⟨List.cons_ne_nil _ _, List.forall_mem_cons.mpr ⟨first', others⟩, ?_⟩
      rw [← joined]
      cases ps with
      | nil => simp only [List.intercalate_singleton]
      | cons q ps => simp only [List.intercalate_cons_cons, List.cons_append]

/-- A text is divided by its points in one way, which is into its parts. -/
theorem dotted_iff {text : String} {ps : List String} :
    Dotted text ps ↔ ps = (parts text.toList).map String.ofList := by
  constructor
  · rintro ⟨nonempty, apart, rfl⟩
    obtain ⟨p, ps, rfl⟩ := List.exists_cons_of_ne_nil nonempty
    have chars : (".".intercalate (p :: ps)).toList =
        ['.'].intercalate (p.toList :: ps.map String.toList) := by
      rw [String.toList_intercalate]
      rfl
    rw [chars, parts_intercalate, ← List.map_cons, List.map_map]
    · simp only [Function.comp_def, String.ofList_toList, List.map_id_fun', id]
    · rw [← List.map_cons, List.forall_mem_map]
      exact apart
  · rintro rfl
    obtain ⟨nonempty, apart, joined⟩ := parts_spec text.toList
    refine ⟨fun none => nonempty (List.map_eq_nil_iff.mp none), ?_, ?_⟩
    · intro part mem
      obtain ⟨p, hp, rfl⟩ := List.mem_map.mp mem
      rw [String.toList_ofList]
      exact apart p hp
    · apply String.toList_injective
      rw [String.toList_intercalate, List.map_map]
      simp only [Function.comp_def, String.toList_ofList, List.map_id_fun', id]
      exact joined

/-! ### Texts -/

/-- A text is judged by what is left of it when it is trimmed. -/
theorem parse_eq (text : String) :
    parse text = if Text.trim text ∈ ["", "."] then .ok []
      else indices (parts (Text.trim text).toList) := by
  have root : ∀ cs : List Char, String.ofList cs ∈ ["", "."] ↔ cs = [] ∨ cs = ['.'] := by
    intro cs
    rw [List.mem_pair]
    exact or_congr String.ofList_inj String.ofList_inj
  simp only [parse, Text.trim, root, String.toList_ofList]

/-- A text is a path exactly when, trimmed, it is a spelling of the root or its parts spell the
indices of the path. -/
theorem parse_eq_ok_iff {text : String} {path : List Nat} :
    parse text = .ok path ↔ Text.trim text ∈ ["", "."] ∧ path = [] ∨
      ∃ parts, Dotted (Text.trim text) parts ∧ List.Forall₂ Spells parts path := by
  rw [parse_eq]
  split
  · rename_i root
    -- the parts of both spellings begin with an empty one, which spells nothing
    have unspelled : ∀ parts, Dotted (Text.trim text) parts → ¬ List.Forall₂ Spells parts path := by
      intro ps dotted spelled
      have first : ∃ others, ps = "" :: others := by
        rw [dotted_iff] at dotted
        rcases List.mem_pair.mp root with h | h <;> rw [h] at dotted <;> exact ⟨_, dotted⟩
      obtain ⟨others, rfl⟩ := first
      obtain ⟨i, _, empty, -⟩ := List.forall₂_cons_left_iff.mp spelled
      exact Unfit.empty.not_spells empty
    constructor
    · intro h
      exact .inl ⟨root, (Except.ok.inj h).symm⟩
    · rintro (⟨-, rfl⟩ | ⟨parts, dotted, spelled⟩)
      · rfl
      · exact absurd spelled (unspelled parts dotted)
  · rename_i other
    rw [indices_eq_ok_iff]
    constructor
    · intro h
      exact .inr ⟨_, dotted_iff.mpr rfl, h⟩
    · rintro (⟨root, -⟩ | ⟨parts, dotted, spelled⟩)
      · exact absurd root other
      · rw [← dotted_iff.mp dotted]
        exact spelled

/-- The indices of a path that was read are words. -/
theorem lt_of_parse {text : String} {path : List Nat} (h : parse text = .ok path) :
    ∀ i ∈ path, i < bound := by
  intro i hi
  rcases parse_eq_ok_iff.mp h with ⟨-, rfl⟩ | ⟨parts, -, spelled⟩
  · cases hi
  · obtain ⟨part, -, spells⟩ := Outcome.exists_left_of_forall₂ spelled hi
    cases spells with
    | plain _ word => exact word
    | signed _ word => exact word

/-- An unfit part ends the reading of a text, unless the text is a spelling of the root. -/
theorem parse_of_unfit {text part : String} {parts : List String}
    (dotted : Dotted (Text.trim text) parts) (other : Text.trim text ∉ ["", "."])
    (mem : part ∈ parts) (h : Unfit part) :
    ∃ bad ∈ parts, parse text = .error bad ∧ ∀ i, ¬ Spells bad i := by
  rw [parse_eq, if_neg other]
  rw [dotted_iff.mp dotted] at mem ⊢
  cases read : indices (ChildPath.parts (Text.trim text).toList) with
  | ok path =>
    have spelled := (indices_eq_ok_iff.mp read).flip
    obtain ⟨i, -, spells⟩ := Outcome.exists_left_of_forall₂ spelled mem
    exact absurd spells h.not_spells
  | error bad =>
    obtain ⟨mem, unspelled⟩ := indices_eq_error read
    exact ⟨bad, mem, rfl, unspelled⟩

/-- **Texts of paths.** Every path of unsigned words is read back from its text. A text is read as a
path exactly when, without the white space around it, it is empty or a lone point and the path is
empty, or its parts between points spell the indices of the path. So the text of a path that was
read is read as that path again; and a text that is none of the root's and has an unfit part is
refused, for a part that spells no index. -/
theorem parse_iff_spelled (text : String) (path : List Nat) :
    ((∀ i ∈ path, i < 2 ^ 64) → parse (format path) = .ok path) ∧
    (parse text = .ok path ↔ ∃ core, Text.Trims text core ∧
      (core ∈ ["", "."] ∧ path = [] ∨
        ∃ parts, Dotted core parts ∧ List.Forall₂ Spells parts path)) ∧
    (parse text = .ok path → parse (format path) = .ok path) ∧
    (∀ core parts, Text.Trims text core → Dotted core parts → core ∉ ["", "."] →
      (∃ part ∈ parts, Unfit part) →
        ∃ bad ∈ parts, parse text = .error bad ∧ ∀ i, ¬ Spells bad i) := by
  simp only [← Text.trim_eq_iff]
  refine ⟨fun words => parse_format words, ?_, ?_, ?_⟩
  · rw [exists_eq_left']
    exact parse_eq_ok_iff
  · intro h
    exact parse_format (lt_of_parse h)
  · rintro core parts rfl dotted other ⟨part, mem, h⟩
    exact parse_of_unfit dotted other mem h

example : parse " +007.0\n" = .ok [7, 0] ∧ parse "1..2" = .error "" := by
  decide

end ChildPath

end RubyTree
