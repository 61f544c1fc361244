/-
The edit distance is the least number of edits.

`Edits k a b` says that `a` becomes `b` by at most `k` edits, done one after the other, each at any
place of the word that the edits before it have left. `within` compares two words from their first
characters on and never goes back. `Aligned` is the relation in between: it pairs the two words from
the front, and its swap takes along what is deleted and inserted between the two characters.

* `Aligned.edit` — one more edit at the end costs an alignment at most one more. The case behind it
  is `Aligned.cross`: two neighbours that are swapped need not both come from the first word.
* `Edits.aligned`, `Aligned.edits` — hence words can be aligned exactly when edits lead from one to
  the other, at the same cost.
* `within_iff_distance_le` — and the search finds the alignments, so that it decides the distance.
-/

import Mathlib.Order.Lattice.Nat
import RubyTree.Text.EditDistance

namespace RubyTree.Text.EditDistance

variable {a b c : List Char} {k l : Nat}

/-! ### Edits -/

/-- One edit: a character is inserted, deleted or replaced, or two neighbours are swapped. -/
inductive Edit : List Char → List Char → Prop where
  | insert (y : Char) (a : List Char) : Edit a (y :: a)
  | delete (x : Char) (a : List Char) : Edit (x :: a) a
  | replace (x y : Char) (a : List Char) : Edit (x :: a) (y :: a)
  | swap (x y : Char) (a : List Char) : Edit (x :: y :: a) (y :: x :: a)
  | later (x : Char) {a b : List Char} (h : Edit a b) : Edit (x :: a) (x :: b)

/-- At most `k` edits, one after the other. -/
inductive Edits : Nat → List Char → List Char → Prop where
  | none (k : Nat) (a : List Char) : Edits k a a
  | step {k : Nat} {a b c : List Char} (before : Edits k a b) (last : Edit b c) :
      Edits (k + 1) a c

/-- The distance of two words: the least number of edits that lead from one to the other. -/
noncomputable def distance (a b : String) : Nat :=
  sInf {k | Edits k a.toList b.toList}

theorem Edits.mono (h : Edits k a b) (le : k ≤ l) : Edits l a b := by
  induction h generalizing l with
  | none k a => exact .none l a
  | @step k _ _ _ before last ih =>
    obtain ⟨l, rfl⟩ : ∃ m, l = m + 1 := ⟨l - 1, by omega⟩
    exact .step (ih (by omega)) last

/-- Edits add up. -/
theorem Edits.trans (h : Edits k a b) (h' : Edits l b c) : Edits (k + l) a c := by
  induction h' with
  | none l b => exact h.mono (by omega)
  | step before last ih => exact .step (ih h) last

theorem Edit.edits (h : Edit a b) : Edits 1 a b :=
  .step (.none 0 a) h

theorem Edits.cons (h : Edits k a b) (x : Char) : Edits k (x :: a) (x :: b) := by
  induction h with
  | none k a => exact .none k (x :: a)
  | step before last ih => exact .step ih (.later x last)

/-! ### Alignments -/

/-- An alignment of two words of cost at most `k`. A swap pairs the first characters crosswise; the
characters `u` between them in the first word are deleted, the characters `v` in the second one are
inserted. -/
inductive Aligned : Nat → List Char → List Char → Prop where
  | nil (k : Nat) : Aligned k [] []
  | keep {k : Nat} {a b : List Char} (x : Char) (h : Aligned k a b) : Aligned k (x :: a) (x :: b)
  | delete {k : Nat} {a b : List Char} (x : Char) (h : Aligned k a b) : Aligned (k + 1) (x :: a) b
  | insert {k : Nat} {a b : List Char} (y : Char) (h : Aligned k a b) : Aligned (k + 1) a (y :: b)
  | replace {k : Nat} {a b : List Char} (x y : Char) (h : Aligned k a b) :
      Aligned (k + 1) (x :: a) (y :: b)
  | swap {k : Nat} {a b : List Char} (x y : Char) (u v : List Char) (h : Aligned k a b) :
      Aligned (k + u.length + v.length + 1) (x :: (u ++ y :: a)) (y :: (v ++ x :: b))

namespace Aligned

theorem mono (h : Aligned k a b) (le : k ≤ l) : Aligned l a b := by
  induction h generalizing l with
  | nil => exact .nil l
  | keep x _ ih => exact .keep x (ih le)
  | delete x _ ih =>
    obtain ⟨l, rfl⟩ : ∃ m, l = m + 1 := ⟨l - 1, by omega⟩
    exact .delete x (ih (by omega))
  | insert y _ ih =>
    obtain ⟨l, rfl⟩ : ∃ m, l = m + 1 := ⟨l - 1, by omega⟩
    exact .insert y (ih (by omega))
  | replace x y _ ih =>
    obtain ⟨l, rfl⟩ : ∃ m, l = m + 1 := ⟨l - 1, by omega⟩
    exact .replace x y (ih (by omega))
  | @swap k _ _ x y u v _ ih =>
    obtain ⟨m, rfl⟩ : ∃ m, l = m + u.length + v.length + 1 :=
      ⟨l - (u.length + v.length + 1), by omega⟩
    exact .swap x y u v (ih (by omega))

theorem refl (k : Nat) (a : List Char) : Aligned k a a := by
  induction a with
  | nil => exact .nil k
  | cons x a ih => exact .keep x ih

theorem deleteAll (h : Aligned k a b) (u : List Char) : Aligned (k + u.length) (u ++ a) b := by
  induction u with
  | nil => exact h
  | cons x u ih => exact .delete x ih

theorem insertAll (h : Aligned k a b) (v : List Char) : Aligned (k + v.length) a (v ++ b) := by
  induction v with
  | nil => exact h
  | cons y v ih => exact .insert y ih

/-- Where a kept character and the one behind it change places in the second word, one more edit is
enough. `u` are the characters that are deleted between the two in the first word. -/
theorem cross {y : Char} (x : Char) (u : List Char) (h : Aligned k a (y :: b)) :
    Aligned (k + u.length + 1) (x :: (u ++ a)) (y :: x :: b) := by
  generalize hb : y :: b = b' at h
  induction h generalizing u b with
  | nil => cases hb
  | keep z h _ =>
    cases hb
    exact .swap x y u [] h
  | @delete k a _ z _ ih =>
    have longer := ih (u ++ [z]) hb
    rw [List.length_append, List.length_singleton, List.append_assoc] at longer
    exact longer.mono (by omega)
  | insert z h _ =>
    cases hb
    exact (insert y (keep x (h.deleteAll u))).mono (by omega)
  | @replace k a _ z _ h _ =>
    cases hb
    exact (insert y (keep x ((h.delete z).deleteAll u))).mono (by omega)
  | @swap k a' b' z _ u' v' h _ =>
    -- the two swaps would share `y`, so it is inserted and deleted instead
    cases hb
    have rest := (keep z ((h.delete y).deleteAll u')).insertAll v'
    exact (insert y (keep x (rest.deleteAll u))).mono (by omega)

end Aligned

/-! ### One more edit -/

/-- What an edit makes of a word around one of its characters: `x` behind the characters `v` and
before the characters `b`. -/
inductive EditedAround (v : List Char) (x : Char) (b : List Char) : List Char → Prop where
  | front (v' : List Char) (h : v'.length ≤ v.length + 1) : EditedAround v x b (v' ++ x :: b)
  | rest {b' : List Char} (h : Edit b b') : EditedAround v x b (v ++ x :: b')
  | deleted : EditedAround v x b (v ++ b)
  | replaced (z : Char) : EditedAround v x b (v ++ z :: b)
  | movedBack (v' : List Char) {w : Char} (h : v = v' ++ [w]) :
      EditedAround v x b (v' ++ x :: w :: b)
  | movedOn {w : Char} {b' : List Char} (h : b = w :: b') :
      EditedAround v x b (v ++ w :: x :: b')

theorem EditedAround.cons {v : List Char} {x : Char} (h : EditedAround v x b c) (w : Char) :
    EditedAround (w :: v) x b (w :: c) := by
  cases h with
  | front v' h => exact .front (w :: v') (Nat.succ_le_succ h)
  | rest h => exact .rest h
  | deleted => exact .deleted
  | replaced z => exact .replaced z
  | movedBack v' h => exact .movedBack (w :: v') (congrArg (w :: ·) h)
  | movedOn h => exact .movedOn h

/-- What an edit does to a word, as seen from one of its characters. -/
theorem Edit.around {v : List Char} {x : Char} (h : Edit (v ++ x :: b) c) :
    EditedAround v x b c := by
  induction v generalizing c with
  | nil =>
    cases h with
    | insert y _ => exact .front [y] (Nat.le_refl 1)
    | delete _ _ => exact .deleted
    | replace _ y _ => exact .replaced y
    | swap _ y b => exact .movedOn rfl
    | later _ h => exact .rest h
  | cons w v ih =>
    rw [List.cons_append] at h
    generalize ht : v ++ x :: b = t at h
    cases h with
    | insert y _ =>
      subst ht
      exact .front (y :: w :: v) (Nat.le_refl _)
    | delete _ _ =>
      subst ht
      exact .front v (Nat.le_add_right v.length 2)
    | replace _ y _ =>
      subst ht
      exact .front (y :: v) (Nat.le_succ _)
    | swap _ y t =>
      cases v with
      | nil =>
        cases ht
        exact .movedBack [] rfl
      | cons z v =>
        cases ht
        exact .front (y :: w :: v) (Nat.le_succ _)
    | later _ h =>
      subst ht
      exact (ih h).cons w

/-- An edit behind a swap, where those behind the rest of the alignment are known. -/
theorem Aligned.edit_swap {x y : Char} {u v : List Char} (h : Aligned k a b)
    (ih : ∀ {c}, Edit b c → Aligned (k + 1) a c) (e : Edit (y :: (v ++ x :: b)) c) :
    Aligned (k + u.length + v.length + 1 + 1) (x :: (u ++ y :: a)) c := by
  -- without the swap, either `x` is kept and `y` deleted, or the other way round
  have keepFirst : Aligned (k + 1 + u.length) (x :: (u ++ y :: a)) (x :: b) :=
    .keep x ((h.delete y).deleteAll u)
  have keepSecond : ∀ {l c}, Aligned l a c →
      Aligned (l + u.length + 1) (x :: (u ++ y :: a)) (y :: c) := fun rest =>
    .delete x ((keep y rest).deleteAll u)
  generalize ht : v ++ x :: b = t at e
  cases e with
  | insert z _ =>
    subst ht
    exact .insert z (.swap x y u v h)
  | delete _ _ =>
    subst ht
    exact (keepFirst.insertAll v).mono (by omega)
  | replace _ z _ =>
    subst ht
    exact (insert z (keepFirst.insertAll v)).mono (by omega)
  | swap _ z t =>
    cases v with
    | nil =>
      cases ht
      exact (keep x ((keep y h).deleteAll u)).mono (by simp only [List.length_nil]; omega)
    | cons w v =>
      cases ht
      exact (insert z (swap x y u v h)).mono (by simp only [List.length_cons]; omega)
  | later _ e =>
    subst ht
    cases e.around with
    | front v' hv => exact (swap x y u v' h).mono (by omega)
    | rest below => exact (swap x y u v (ih below)).mono (by omega)
    | deleted => exact (keepSecond (h.insertAll v)).mono (by omega)
    | replaced z => exact (keepSecond ((h.insert z).insertAll v)).mono (by omega)
    | @movedBack v' w hv =>
      have length : v.length = v'.length + 1 := by rw [hv, List.length_append]; rfl
      exact (swap x y u v' (h.insert w)).mono (by omega)
    | @movedOn w b' hb =>
      subst hb
      exact (keepSecond ((ih (.later w (.insert x b'))).insertAll v)).mono (by omega)

/-- An edit behind an alignment costs at most one more. -/
theorem Aligned.edit (h : Aligned k a b) (e : Edit b c) : Aligned (k + 1) a c := by
  induction h generalizing c with
  | nil k =>
    cases e with
    | insert y _ => exact .insert y (.nil k)
  | keep x h ih =>
    cases e with
    | insert y _ => exact .insert y (.keep x h)
    | delete _ _ => exact .delete x h
    | replace _ y _ => exact .replace x y h
    | swap _ y b => exact h.cross x []
    | later _ e => exact .keep x (ih e)
  | delete x _ ih => exact .delete x (ih e)
  | insert y h ih =>
    cases e with
    | insert z _ => exact .insert z (.insert y h)
    | delete _ _ => exact h.mono (by omega)
    | replace _ z _ => exact (h.insert z).mono (by omega)
    | swap _ z b => exact (ih (.later z (.insert y b))).mono (by omega)
    | later _ e => exact .insert y (ih e)
  | replace x y h ih =>
    cases e with
    | insert z _ => exact .insert z (.replace x y h)
    | delete _ _ => exact (h.delete x).mono (by omega)
    | replace _ z _ => exact (h.replace x z).mono (by omega)
    | swap _ z b => exact .delete x (ih (.later z (.insert y b)))
    | later _ e => exact .replace x y (ih e)
  | swap _ _ _ _ h ih => exact h.edit_swap ih e

/-! ### Edits and alignments -/

/-- Words that `k` edits lead from one to the other have an alignment of cost `k`. -/
theorem Edits.aligned (h : Edits k a b) : Aligned k a b := by
  induction h with
  | none k a => exact .refl k a
  | step _ last ih => exact ih.edit last

theorem edits_deleteAll (u a : List Char) : Edits u.length (u ++ a) a := by
  induction u with
  | nil => exact .none 0 a
  | cons x u ih =>
    have both := (Edit.delete x (u ++ a)).edits.trans ih
    exact both.mono (by rw [List.length_cons]; omega)

theorem edits_insertAll (v a : List Char) : Edits v.length a (v ++ a) := by
  induction v with
  | nil => exact .none 0 a
  | cons y v ih => exact .step ih (.insert y (v ++ a))

/-- An alignment is carried out by edits: what stands between two swapped characters is deleted
before they are swapped and inserted at the end. -/
theorem Aligned.edits (h : Aligned k a b) : Edits k a b := by
  induction h with
  | nil k => exact .none k []
  | keep x _ ih => exact ih.cons x
  | delete x _ ih => exact ((Edit.delete x _).edits.trans ih).mono (by omega)
  | insert y _ ih => exact .step ih (.insert y _)
  | replace x y _ ih => exact .step (ih.cons x) (.replace x y _)
  | @swap k a b x y u v _ ih =>
    have together : Edits u.length (x :: (u ++ y :: a)) (x :: y :: a) :=
      (edits_deleteAll u (y :: a)).cons x
    have swapped : Edits (u.length + 1) (x :: (u ++ y :: a)) (y :: x :: a) :=
      .step together (.swap x y a)
    have rest : Edits k (y :: x :: a) (y :: x :: b) := (ih.cons x).cons y
    have apart : Edits v.length (y :: x :: b) (y :: (v ++ x :: b)) :=
      (edits_insertAll v (x :: b)).cons y
    exact ((swapped.trans rest).trans apart).mono (by omega)

/-! ### The search -/

theorem within_nil_left : within k [] b = decide (b.length ≤ k) := by
  rw [within]

theorem within_nil_right : within k a [] = decide (a.length ≤ k) := by
  cases a with
  | nil => rw [within]
  | cons x a =>
    rw [within]
    exact List.cons_ne_nil x a

/-- Two words are within a distance by an equal first character, an edit or a swap. -/
theorem within_cons_iff {x y : Char} :
    within k (x :: a) (y :: b) = true ↔
      (x = y ∧ within k a b = true) ∨
      (0 < k ∧ (within (k - 1) a (y :: b) = true ∨ within (k - 1) (x :: a) b = true ∨
        within (k - 1) a b = true)) ∨
      ∃ i j, i + j < k ∧ a[i]? = some y ∧ b[j]? = some x ∧
        within (k - (i + j + 1)) (a.drop (i + 1)) (b.drop (j + 1)) = true := by
  rw [within]
  simp only [Bool.or_eq_true, Bool.and_eq_true, beq_iff_eq, decide_eq_true_iff, List.any_eq_true,
    List.mem_range, or_assoc, and_assoc]
  refine or_congr_right (or_congr_right ⟨?_, ?_⟩)
  · rintro ⟨i, -, j, -, h⟩
    exact ⟨i, j, h⟩
  · rintro ⟨i, j, small, h⟩
    exact ⟨i, by omega, j, by omega, small, h⟩

/-- A word around one of its positions. -/
theorem split_of_getElem? {x : Char} {i : Nat} (h : a[i]? = some x) :
    a = a.take i ++ x :: a.drop (i + 1) ∧ (a.take i).length = i := by
  obtain ⟨inside, rfl⟩ := List.getElem?_eq_some_iff.mp h
  rw [← List.drop_eq_getElem_cons inside, List.take_append_drop, List.length_take]
  exact ⟨rfl, by omega⟩

theorem drop_of_append (u : List Char) (x : Char) (a : List Char) :
    (u ++ x :: a).drop (u.length + 1) = a := by
  rw [← List.drop_drop, List.drop_left]
  rfl

/-- What the search finds is an alignment. -/
theorem aligned_of_within (k : Nat) (a b : List Char) (h : within k a b = true) :
    Aligned k a b := by
  match a, b with
  | [], b =>
    rw [within_nil_left, decide_eq_true_iff] at h
    have inserted := (Aligned.nil 0).insertAll b
    rw [List.append_nil] at inserted
    exact inserted.mono (by omega)
  | x :: a, [] =>
    rw [within_nil_right, decide_eq_true_iff] at h
    have deleted := (Aligned.nil 0).deleteAll (x :: a)
    rw [List.append_nil] at deleted
    exact deleted.mono (by omega)
  | x :: a, y :: b =>
    rcases within_cons_iff.mp h with ⟨same, h⟩ | ⟨pos, h⟩ | ⟨i, j, small, hi, hj, h⟩
    · rw [same]
      exact .keep y (aligned_of_within k a b h)
    · obtain ⟨k, rfl⟩ : ∃ m, k = m + 1 := ⟨k - 1, by omega⟩
      rcases h with h | h | h
      · exact .delete x (aligned_of_within k a (y :: b) h)
      · exact .insert y (aligned_of_within k (x :: a) b h)
      · exact .replace x y (aligned_of_within k a b h)
    · have rest := aligned_of_within _ (a.drop (i + 1)) (b.drop (j + 1)) h
      obtain ⟨ha, iLength⟩ := split_of_getElem? hi
      obtain ⟨hb, jLength⟩ := split_of_getElem? hj
      have swapped := Aligned.swap x y (a.take i) (b.take j) rest
      rw [← ha, ← hb] at swapped
      exact swapped.mono (by omega)
termination_by a.length + b.length

/-- The search finds every alignment. -/
theorem Aligned.within (h : Aligned k a b) : within k a b = true := by
  induction h with
  | nil k => exact within_nil_left.trans (decide_eq_true (Nat.zero_le k))
  | keep x _ ih => exact within_cons_iff.mpr (.inl ⟨rfl, ih⟩)
  | @delete k a b x h ih =>
    cases b with
    | nil =>
      rw [within_nil_right, decide_eq_true_iff] at ih ⊢
      exact Nat.succ_le_succ ih
    | cons y b => exact within_cons_iff.mpr (.inr (.inl ⟨Nat.succ_pos k, .inl ih⟩))
  | @insert k a b y h ih =>
    cases a with
    | nil =>
      rw [within_nil_left, decide_eq_true_iff] at ih ⊢
      exact Nat.succ_le_succ ih
    | cons x a => exact within_cons_iff.mpr (.inr (.inl ⟨Nat.succ_pos k, .inr (.inl ih)⟩))
  | @replace k a b x y h ih =>
    exact within_cons_iff.mpr (.inr (.inl ⟨Nat.succ_pos k, .inr (.inr ih)⟩))
  | @swap k a b x y u v h ih =>
    have budget : k + u.length + v.length + 1 - (u.length + v.length + 1) = k := by omega
    refine within_cons_iff.mpr (.inr (.inr ⟨u.length, v.length, by omega, by simp, by simp, ?_⟩))
    rw [budget, drop_of_append, drop_of_append]
    exact ih

/-- The search decides how many edits are enough. -/
theorem within_iff_edits : EditDistance.within k a b = true ↔ Edits k a b :=
  ⟨fun h => (aligned_of_within k a b h).edits, fun h => h.aligned.within⟩

/-! ### The distance -/

/-- The distance is a number of edits that suffices. -/
theorem edits_distance (a b : String) : Edits (distance a b) a.toList b.toList := by
  have someEdits : Edits (a.toList.length + b.toList.length) a.toList b.toList := by
    have deleted := edits_deleteAll a.toList []
    have inserted := edits_insertAll b.toList []
    rw [List.append_nil] at deleted inserted
    exact deleted.trans inserted
  exact Nat.sInf_mem (s := {k | Edits k a.toList b.toList}) ⟨_, someEdits⟩

/-- The test of the code is the comparison with the distance. -/
theorem within_iff_distance_le {a b : String} :
    EditDistance.within k a.toList b.toList = true ↔ distance a b ≤ k := by
  rw [within_iff_edits]
  exact ⟨fun h => Nat.sInf_le h, fun h => (edits_distance a b).mono h⟩

/-- Up to a limit, the distance is found. -/
theorem upTo?_eq_some_iff {limit d : Nat} {a b : String} :
    upTo? limit a b = some d ↔ distance a b = d ∧ d ≤ limit := by
  simp only [upTo?, List.find?_range_eq_some, within_iff_distance_le, List.mem_range,
    Bool.not_eq_true', Bool.eq_false_iff, ne_eq]
  constructor
  · rintro ⟨le, small, least⟩
    refine ⟨Nat.le_antisymm le (Nat.not_lt.mp fun lt => ?_), Nat.lt_succ_iff.mp small⟩
    exact least _ lt (Nat.le_refl _)
  · rintro ⟨rfl, small⟩
    exact ⟨Nat.le_refl _, Nat.lt_succ_iff.mpr small, fun j => Nat.not_le.mpr⟩

/-- Swapped, the two characters have a third one between them. -/
example : upTo? 3 "ca" "abc" = some 2 := by
  decide +kernel

end RubyTree.Text.EditDistance
