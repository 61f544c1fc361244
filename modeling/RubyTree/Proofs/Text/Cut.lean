/-
Where a text can be cut.

A cut at byte offsets takes whole characters: `Text.cut?_eq_some_iff` says that it is the middle of
a division of the text in three whose parts have the bytes that the offsets count, and
`Text.isSome_cut?_iff` that it exists exactly when the offsets are in order, inside the text and
between characters.
-/

import RubyTree.Text.Cut

namespace RubyTree.Text

/-! ### Bytes of characters -/

theorem byteLength_append (cs ds : List Char) :
    byteLength (cs ++ ds) = byteLength cs + byteLength ds := by
  induction cs with
  | nil => simp [byteLength]
  | cons c cs ih =>
    simp only [List.cons_append, byteLength, ih]
    omega

theorem byteLength_eq_zero_iff {cs : List Char} : byteLength cs = 0 ↔ cs = [] := by
  cases cs with
  | nil => simp [byteLength]
  | cons c cs =>
    have := c.utf8Size_pos
    simp only [byteLength, reduceCtorEq, iff_false]
    omega

/-- The bytes of characters are those of the text that they make up. -/
theorem byteLength_eq_utf8ByteSize (cs : List Char) :
    byteLength cs = (String.ofList cs).utf8ByteSize := by
  induction cs with
  | nil => rfl
  | cons c cs ih =>
    rw [byteLength, ih, ← List.singleton_append, String.ofList_append, String.utf8ByteSize_append]
    simp

theorem byteLength_toList (text : String) : byteLength text.toList = text.utf8ByteSize := by
  rw [byteLength_eq_utf8ByteSize, String.ofList_toList]

/-! ### Cuts -/

/-- A split at a byte offset is the division of the characters whose first part has that many
bytes. -/
theorem splitAtByte?_eq_some_iff {cs pre post : List Char} {i : Nat} :
    splitAtByte? cs i = some (pre, post) ↔ cs = pre ++ post ∧ byteLength pre = i := by
  induction cs generalizing pre i with
  | nil =>
    cases i with
    | zero =>
      rw [splitAtByte?, byteLength_eq_zero_iff]
      cases pre <;> simp
    | succ i =>
      rw [splitAtByte?]
      cases pre <;> simp [byteLength]
  | cons c cs ih =>
    cases i with
    | zero =>
      rw [splitAtByte?, byteLength_eq_zero_iff]
      cases pre <;> simp
    | succ i =>
      rw [splitAtByte?]
      cases pre with
      | nil =>
        have short : byteLength [] ≠ i + 1 := by simp [byteLength]
        simp only [short, and_false, iff_false]
        split <;> simp
      | cons d pre =>
        simp only [List.cons_append, List.cons.injEq, byteLength]
        split
        · rename_i fits
          simp only [Option.map_eq_some_iff, Prod.exists, Prod.mk.injEq, List.cons.injEq]
          constructor
          · rintro ⟨pre', post', h, ⟨rfl, rfl⟩, rfl⟩
            obtain ⟨rfl, hi⟩ := ih.mp h
            exact ⟨⟨rfl, rfl⟩, by omega⟩
          · rintro ⟨⟨rfl, rfl⟩, hi⟩
            exact ⟨pre, post, ih.mpr ⟨rfl, by omega⟩, ⟨rfl, rfl⟩, rfl⟩
        · rename_i fits
          simp only [reduceCtorEq, false_iff]
          rintro ⟨⟨rfl, -⟩, hi⟩
          omega

/-- **A cut is a division into whole characters.** -/
theorem cut?_eq_some_iff {text mid : String} {start stop : Nat} :
    cut? text start stop = some mid ↔
      ∃ pre post : String, text = pre ++ mid ++ post ∧
        pre.utf8ByteSize = start ∧ (pre ++ mid).utf8ByteSize = stop := by
  unfold cut?
  constructor
  · intro h
    split at h
    · rename_i order
      obtain ⟨⟨pre, rest⟩, hp, h⟩ := Option.bind_eq_some_iff.mp h
      obtain ⟨⟨chars, post⟩, hq, rfl⟩ := Option.map_eq_some_iff.mp h
      obtain ⟨htext, hstart⟩ := splitAtByte?_eq_some_iff.mp hp
      obtain ⟨hrest, hstop⟩ := splitAtByte?_eq_some_iff.mp hq
      simp only at hrest
      subst hrest
      rw [byteLength_eq_utf8ByteSize] at hstart hstop
      refine ⟨String.ofList pre, String.ofList post, ?_, hstart, ?_⟩
      · rw [← text.ofList_toList, htext]
        simp only [String.ofList_append, String.append_assoc]
      · simp only [String.utf8ByteSize_append]
        omega
    · cases h
  · rintro ⟨pre, post, rfl, rfl, rfl⟩
    have hp : splitAtByte? (pre ++ mid ++ post).toList pre.utf8ByteSize =
        some (pre.toList, mid.toList ++ post.toList) :=
      splitAtByte?_eq_some_iff.mpr ⟨by simp, byteLength_toList pre⟩
    have hq : splitAtByte? (mid.toList ++ post.toList)
        ((pre ++ mid).utf8ByteSize - pre.utf8ByteSize) = some (mid.toList, post.toList) := by
      refine splitAtByte?_eq_some_iff.mpr ⟨rfl, ?_⟩
      rw [byteLength_toList, String.utf8ByteSize_append]
      omega
    have order : pre.utf8ByteSize ≤ (pre ++ mid).utf8ByteSize := by
      rw [String.utf8ByteSize_append]
      omega
    rw [if_pos order, hp]
    simp only [Option.bind_some, hq, Option.map_some, String.ofList_toList]

/-- Two divisions of a text at offsets in order divide it in three. -/
theorem exists_middle {a b c d : String} (h : a ++ b = c ++ d)
    (order : a.utf8ByteSize ≤ c.utf8ByteSize) : ∃ mid, c = a ++ mid := by
  have chars := congrArg String.toList h
  simp only [String.toList_append] at chars
  rcases List.append_eq_append_iff.mp chars with ⟨mid, hc, -⟩ | ⟨mid, ha, -⟩
  · refine ⟨String.ofList mid, ?_⟩
    rw [← c.ofList_toList, hc, String.ofList_append, String.ofList_toList]
  · -- The first part is the longer one, so by its bytes the two are the same.
    have bytes := congrArg byteLength ha
    rw [byteLength_append, byteLength_toList, byteLength_toList] at bytes
    have empty : mid = [] := byteLength_eq_zero_iff.mp (by omega)
    rw [empty, List.append_nil] at ha
    exact ⟨"", by rw [String.toList_inj.mp ha, String.append_empty]⟩

/-- A cut exists exactly when its offsets are in order, inside the text and between characters. -/
theorem isSome_cut?_iff {text : String} {start stop : Nat} :
    (cut? text start stop).isSome = true ↔
      start ≤ stop ∧ stop ≤ text.utf8ByteSize ∧
        String.Pos.Raw.IsValid text ⟨start⟩ ∧ String.Pos.Raw.IsValid text ⟨stop⟩ := by
  rw [Option.isSome_iff_exists]
  constructor
  · rintro ⟨mid, h⟩
    obtain ⟨pre, post, rfl, rfl, rfl⟩ := cut?_eq_some_iff.mp h
    refine ⟨?_, ?_, ?_, ?_⟩
    · rw [String.utf8ByteSize_append]
      omega
    · rw [String.utf8ByteSize_append (s := pre ++ mid)]
      omega
    · exact String.Pos.Raw.isValid_iff_exists_append.mpr
        ⟨pre, mid ++ post, String.append_assoc, rfl⟩
    · exact String.Pos.Raw.isValid_iff_exists_append.mpr ⟨pre ++ mid, post, rfl, rfl⟩
  · rintro ⟨order, -, hstart, hstop⟩
    obtain ⟨a, b, rfl, ha⟩ := String.Pos.Raw.isValid_iff_exists_append.mp hstart
    obtain ⟨c, d, hcd, hc⟩ := String.Pos.Raw.isValid_iff_exists_append.mp hstop
    have hsize : a.utf8ByteSize = start := (congrArg String.Pos.Raw.byteIdx ha).symm
    have csize : c.utf8ByteSize = stop := (congrArg String.Pos.Raw.byteIdx hc).symm
    obtain ⟨mid, rfl⟩ := exists_middle hcd (by omega)
    exact ⟨mid, cut?_eq_some_iff.mpr ⟨a, d, hcd, hsize, csize⟩⟩

end RubyTree.Text
