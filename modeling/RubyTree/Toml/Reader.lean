/-
Reading TOML documents.

A document is a list of lines: a key with its value, the header of a table, the header of an element
of an array of tables, or nothing. Arrays and inline tables may spread over lines, with comments
between their parts, end in a comma, and nest at most `maxDepth` deep.
-/

import RubyTree.Toml.Scalar
import RubyTree.Toml.Text

namespace RubyTree.Toml

/-- The greatest depth of nested arrays and inline tables. -/
def maxDepth : Nat := 80

/-- An unquoted value, which takes at least one character. -/
def unquoted (s : List Char) : Option (Value × Rest s) := do
  let cs := Scalar.token s
  let v ← Scalar.value? cs
  if h : 0 < cs.length ∧ 0 < s.length then
    some (v, ⟨s.drop cs.length, by simp only [List.length_drop]; omega⟩)
  else none

mutual

/-- A value, with `depth` levels of nesting left. -/
def value (depth : Nat) (s : List Char) : Option (Value × Rest s) :=
  match s with
  | '[' :: t =>
    if depth = 0 then none
    else do
      let (vs, ⟨r, h⟩) ← items (depth - 1) t
      some (.array vs, ⟨r, Nat.lt_succ_of_lt h⟩)
  | '\x7b' :: t =>
    if depth = 0 then none
    else do
      let (es, ⟨r, h⟩) ← entries (depth - 1) [] t
      some (.table .inline es, ⟨r, Nat.lt_succ_of_lt h⟩)
  | s =>
    match string? s with
    | some (text, r) => some (.text text, r)
    | none => if s.head? = some '"' ∨ s.head? = some '\'' then none else unquoted s
termination_by 2 * s.length
decreasing_by all_goals (simp only [List.length_cons]; omega)

/-- The items of an array from the next one on, and the rest behind its end. -/
def items (depth : Nat) (s : List Char) : Option (List Value × Rest s) := do
  let t ← skipTrivia s
  have ht := t.property
  match he : t.val with
  | ']' :: r => some ([], ⟨r, by simp only [he, List.length_cons] at ht; omega⟩)
  | _ =>
    let (v, r) ← value depth t.val
    have hr := r.property
    let u ← skipTrivia r.val
    have hu := u.property
    match hf : u.val with
    | ']' :: w => some ([v], ⟨w, by simp only [hf, List.length_cons] at hu; omega⟩)
    | ',' :: w =>
      have hw : w.length < s.length := by simp only [hf, List.length_cons] at hu; omega
      let (vs, ⟨r', h'⟩) ← items depth w
      some (v :: vs, ⟨r', by omega⟩)
    | _ => none
termination_by 2 * s.length + 1
decreasing_by all_goals omega

/-- The entries of an inline table from the next one on, added to those before it, and the rest
behind its end. -/
def entries (depth : Nat) (before : Entries) (s : List Char) : Option (Entries × Rest s) := do
  let t ← skipTrivia s
  have ht := t.property
  match he : t.val with
  | '\x7d' :: r => some (before, ⟨r, by simp only [he, List.length_cons] at ht; omega⟩)
  | _ =>
    let (keys, r) ← keyPath t.val
    have hr := r.property
    let q ← skipTrivia r.val
    have hq := q.property
    match he' : q.val with
    | '=' :: u =>
      let n ← skipTrivia u
      have hn : n.val.length < s.length := by
        have := n.property
        simp only [he', List.length_cons] at hq
        omega
      let (v, r') ← value depth n.val
      have hr' := r'.property
      let es ← before.insert keys v
      let w ← skipTrivia r'.val
      have hw := w.property
      match hf : w.val with
      | '\x7d' :: x => some (es, ⟨x, by simp only [hf, List.length_cons] at hw; omega⟩)
      | ',' :: x =>
        have hx : x.length < s.length := by simp only [hf, List.length_cons] at hw; omega
        let (es', ⟨r'', h''⟩) ← entries depth es x
        some (es', ⟨r'', by omega⟩)
      | _ => none
    | _ => none
termination_by 2 * s.length + 1
decreasing_by all_goals omega

end

/-! ### Documents -/

/-- The tables read so far, and the path that the last header named. -/
structure Document where
  entries : Entries
  header : List String

/-- The rest behind a header's closing brackets and the end of its line. -/
def closeHeader (brackets s : List Char) : Option (Within s) :=
  if brackets.isPrefixOf s then do
    let ⟨r, h⟩ ← endLine (s.drop brackets.length)
    some ⟨r, by simp only [List.length_drop] at h; omega⟩
  else none

def line (d : Document) (s : List Char) : Option (Document × Within s) :=
  match s with
  | '[' :: '[' :: t => do
    let (path, ⟨r, h⟩) ← keyPath t
    let ⟨r', h'⟩ ← closeHeader [']', ']'] r
    let es ← d.entries.openElement path
    some (⟨es, path⟩, ⟨r', by simp only [List.length_cons]; omega⟩)
  | '[' :: t => do
    let (path, ⟨r, h⟩) ← keyPath t
    let ⟨r', h'⟩ ← closeHeader [']'] r
    let es ← d.entries.openTable path
    some (⟨es, path⟩, ⟨r', by simp only [List.length_cons]; omega⟩)
  | s => do
    let (keys, ⟨r, h⟩) ← keyPath s
    match r, h with
    | '=' :: u, h =>
      let ⟨t, ht⟩ := skipSpace u
      let (v, ⟨r', h'⟩) ← value maxDepth t
      let ⟨r'', h''⟩ ← endLine r'
      let es ← d.entries.assign d.header keys v
      some (⟨es, d.header⟩, ⟨r'', by simp only [List.length_cons] at h; omega⟩)
    | _, _ => none

/-- Reads the lines of a document that are left. -/
def lines (d : Document) (s : List Char) : Option Document := do
  let ⟨t, _⟩ ← skipTrivia s
  if t.isEmpty then some d
  else
    let (d', ⟨r, _⟩) ← line d t
    if r.length < s.length then lines d' r else none
termination_by s.length

/-- The entries of a document's root table. A byte order mark may stand in front. -/
def read (text : String) : Option Entries :=
  let cs := match text.toList with
    | '\ufeff' :: rest => rest
    | all => all
  (lines ⟨[], []⟩ cs).map Document.entries

end RubyTree.Toml
