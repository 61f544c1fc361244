/-
The texts of TOML: blanks, comments, quoted strings and keys.

Every reader takes the rest of the text and returns what follows, or nothing when the text is not as
it has to be.
-/

import RubyTree.Text.Hex

namespace RubyTree.Toml

/-- A rest that is shorter than `s`. -/
abbrev Rest (s : List Char) : Type :=
  { r : List Char // r.length < s.length }

/-- A rest that is not longer than `s`. -/
abbrev Within (s : List Char) : Type :=
  { r : List Char // r.length ≤ s.length }

/-- A text is not longer than itself. -/
theorem length_le_self (s : List Char) : s.length ≤ s.length :=
  Nat.le_refl _

/-- The whole text as a rest. -/
def here (s : List Char) : Within s :=
  ⟨s, length_le_self s⟩

/-- What follows a character is shorter than both together. -/
theorem length_lt_cons (c : Char) (s : List Char) : s.length < (c :: s).length :=
  Nat.lt_succ_self _

/-- So is a part of what follows. -/
theorem length_drop_lt_cons (n : Nat) (c : Char) (s : List Char) :
    (s.drop n).length < (c :: s).length := by
  simp only [List.length_cons, List.length_drop]
  omega

/-! ### Blanks and comments -/

/-- Whether a character separates tokens of a line. -/
def isSpace (c : Char) : Bool :=
  c == ' ' || c == '\t'

/-- The rest behind the blanks of a line. -/
def skipSpace (s : List Char) : Within s :=
  ⟨s.dropWhile isSpace, (List.dropWhile_suffix isSpace).length_le⟩

/-- Whether a character may stand in a comment or a literal string. -/
def isPlain (c : Char) : Bool :=
  c == '\t' || (decide (0x20 ≤ c.toNat) && c.toNat != 0x7f)

/-- The rest behind a line break, when one comes next. -/
def newline? (s : List Char) : Option (Rest s) :=
  match s with
  | [] => none
  | c :: r =>
    if c = '\n' then some ⟨r, length_lt_cons c r⟩
    else if c = '\r' then
      match r with
      | '\n' :: t => some ⟨t, by simp only [List.length_cons]; omega⟩
      | _ => none
    else none

/-- The rest behind a comment, if there is one: a line break or the end. -/
def skipComment (s : List Char) : Option (Within s) :=
  match s with
  | '#' :: t =>
    let r := t.dropWhile isPlain
    have h : r.length ≤ t.length := (List.dropWhile_suffix isPlain).length_le
    if r.isEmpty || (newline? r).isSome then some ⟨r, Nat.le_succ_of_le h⟩ else none
  | t => some (here t)

/-- The rest behind the end of a line: blanks, a comment, and a line break or the end. -/
def endLine (s : List Char) : Option (Within s) := do
  let ⟨r, h⟩ ← skipComment (skipSpace s).val
  have := (skipSpace s).property
  if r.isEmpty then some ⟨r, by omega⟩
  else
    let ⟨t, ht⟩ ← newline? r
    some ⟨t, by omega⟩

/-- The rest behind blanks, comments and line breaks. -/
def skipTrivia (s : List Char) : Option (Within s) := do
  let ⟨r, h⟩ ← skipComment (skipSpace s).val
  have := (skipSpace s).property
  match newline? r with
  | none => some ⟨r, by omega⟩
  | some ⟨t, ht⟩ =>
    let ⟨u, hu⟩ ← skipTrivia t
    some ⟨u, by omega⟩
termination_by s.length
decreasing_by omega

/-! ### Escapes -/

def hexNumber? (ds : List Char) : Option Nat :=
  ds.foldlM (fun n d => (Text.hexValue? d).map (fun v => 16 * n + v)) 0

/-- The character with a code point, which is no surrogate. -/
def scalar? (n : Nat) : Option Char :=
  if n < 0xd800 ∨ (0xdfff < n ∧ n < 0x110000) then some (Char.ofNat n) else none

/-- The character of an escape with one letter. -/
def shortEscape? : Char → Option Char
  | 'b' => some '\x08'
  | 't' => some '\t'
  | 'n' => some '\n'
  | 'f' => some '\x0c'
  | 'r' => some '\r'
  | 'e' => some '\x1b'
  | '"' => some '"'
  | '\\' => some '\\'
  | _ => none

/-- The number of digits behind the letter of a numeric escape. -/
def escapeWidth? : Char → Option Nat
  | 'x' => some 2
  | 'u' => some 4
  | 'U' => some 8
  | _ => none

/-- The character of an escape behind its backslash. -/
def escape (s : List Char) : Option (Char × Rest s) :=
  match s with
  | [] => none
  | e :: t =>
    match escapeWidth? e with
    | none => (shortEscape? e).map (fun c => (c, ⟨t, length_lt_cons e t⟩))
    | some width =>
      if (t.take width).length = width then do
        let n ← hexNumber? (t.take width)
        let c ← scalar? n
        some (c, ⟨t.drop width, length_drop_lt_cons width e t⟩)
      else none

/-! ### Strings -/

/-- A basic string behind its opening quote. -/
def basic (done s : List Char) : Option (String × Rest s) :=
  match s with
  | [] => none
  | '"' :: t => some (String.ofList done.reverse, ⟨t, by simp⟩)
  | '\\' :: t => do
    let (c, ⟨r, h⟩) ← escape t
    let (text, ⟨r', h'⟩) ← basic (c :: done) r
    some (text, ⟨r', by simp only [List.length_cons]; omega⟩)
  | c :: t =>
    if isPlain c then do
      let (text, ⟨r', h'⟩) ← basic (c :: done) t
      some (text, ⟨r', by simp only [List.length_cons]; omega⟩)
    else none
termination_by s.length
decreasing_by all_goals (simp only [List.length_cons]; omega)

/-- A literal string behind its opening quote. -/
def literal (s : List Char) : Option (String × Rest s) :=
  let body := s.takeWhile (fun c => isPlain c && c != '\'')
  match h : s.dropWhile (fun c => isPlain c && c != '\'') with
  | '\'' :: r =>
    some (String.ofList body, ⟨r, by
      have := (List.dropWhile_suffix (l := s) (fun c => isPlain c && c != '\'')).length_le
      rw [h, List.length_cons] at this
      omega⟩)
  | _ => none

/-- The rest behind the blanks and line breaks that a backslash at the end of a line swallows. -/
def joinLines (s : List Char) : Within s :=
  let ⟨t, ht⟩ := skipSpace s
  match newline? t with
  | none => ⟨t, ht⟩
  | some ⟨r, hr⟩ =>
    let ⟨u, hu⟩ := joinLines r
    ⟨u, by omega⟩
termination_by s.length
decreasing_by omega

/-- The number of times that `q` comes next, at most five. -/
def quotes (q : Char) (s : List Char) : Nat :=
  ((s.take 5).takeWhile (fun c => c == q)).length

/-- The line break that begins with a character, from its end. -/
def lineBreak (c : Char) : List Char :=
  if c = '\r' then ['\n', '\r'] else ['\n']

/-- A multi-line string between `q`s, behind its opening quotes and first line break. A run of three
to five quotes ends it, and those before the last three belong to it. Line breaks stay as they are.
-/
def multiline (q : Char) (escapes : Bool) (done s : List Char) : Option (String × Rest s) :=
  match s with
  | [] => none
  | c :: t =>
    if 3 ≤ quotes q (c :: t) then
      let n := quotes q (c :: t)
      some (String.ofList (done.reverse ++ List.replicate (n - 3) q),
        ⟨t.drop (n - 1), by simp only [List.length_cons, List.length_drop]; omega⟩)
    else
      match newline? (c :: t) with
      | some ⟨r, h⟩ => do
        let (text, ⟨r', h'⟩) ← multiline q escapes (lineBreak c ++ done) r
        some (text, ⟨r', by omega⟩)
      | none =>
        if escapes && c == '\\' then
          let ⟨u, hu⟩ := skipSpace t
          match newline? u with
          | some ⟨r, h⟩ => do
            let ⟨j, hj⟩ := joinLines r
            let (text, ⟨r', h'⟩) ← multiline q escapes done j
            some (text, ⟨r', by simp only [List.length_cons]; omega⟩)
          | none => do
            let (e, ⟨r, h⟩) ← escape t
            let (text, ⟨r', h'⟩) ← multiline q escapes (e :: done) r
            some (text, ⟨r', by simp only [List.length_cons]; omega⟩)
        else if isPlain c then do
          let (text, ⟨r', h'⟩) ← multiline q escapes (c :: done) t
          some (text, ⟨r', by simp only [List.length_cons]; omega⟩)
        else none
termination_by s.length
decreasing_by all_goals (simp only [List.length_cons] at *; omega)

/-- The rest behind a line break that may come next. -/
def optionalNewline (s : List Char) : Within s :=
  match newline? s with
  | some ⟨r, h⟩ => ⟨r, Nat.le_of_lt h⟩
  | none => here s

/-- A string of any kind, when a quote comes next. -/
def string? (s : List Char) : Option (String × Rest s) :=
  match s with
  | '"' :: '"' :: '"' :: t => do
    let ⟨r, h⟩ := optionalNewline t
    let (text, ⟨r', h'⟩) ← multiline '"' true [] r
    some (text, ⟨r', by simp only [List.length_cons]; omega⟩)
  | '\'' :: '\'' :: '\'' :: t => do
    let ⟨r, h⟩ := optionalNewline t
    let (text, ⟨r', h'⟩) ← multiline '\'' false [] r
    some (text, ⟨r', by simp only [List.length_cons]; omega⟩)
  | '"' :: t => (basic [] t).map (fun p => (p.1, ⟨p.2.val, Nat.lt_succ_of_lt p.2.property⟩))
  | '\'' :: t => (literal t).map (fun p => (p.1, ⟨p.2.val, Nat.lt_succ_of_lt p.2.property⟩))
  | _ => none

/-! ### Keys -/

/-- Whether a character may stand in a bare key. -/
def isBare (c : Char) : Bool :=
  c.isAlphanum || c == '_' || c == '-'

/-- One key: bare, or a string on one line. -/
def simpleKey (s : List Char) : Option (String × Rest s) :=
  match s with
  | '"' :: t => (basic [] t).map (fun p => (p.1, ⟨p.2.val, Nat.lt_succ_of_lt p.2.property⟩))
  | '\'' :: t => (literal t).map (fun p => (p.1, ⟨p.2.val, Nat.lt_succ_of_lt p.2.property⟩))
  | c :: t =>
    if isBare c then
      some (String.ofList (c :: t.takeWhile isBare), ⟨t.dropWhile isBare, by
        have := (List.dropWhile_suffix (l := t) isBare).length_le
        simp only [List.length_cons]
        omega⟩)
    else none
  | [] => none

/-- Keys joined by points, with blanks around them, as many as there are. -/
def dottedKey (s : List Char) : Option (List String × Rest s) := do
  let (key, ⟨r, h⟩) ← simpleKey (skipSpace s).val
  have := (skipSpace s).property
  match ht : (skipSpace r).val with
  | '.' :: t =>
    have := (skipSpace r).property
    let (keys, ⟨r', h'⟩) ← dottedKey t
    some (key :: keys, ⟨r', by simp only [ht, List.length_cons] at *; omega⟩)
  | t => some ([key], ⟨t, by have := (skipSpace r).property; simp only [ht] at *; omega⟩)
termination_by s.length
decreasing_by
  simp only [ht, List.length_cons] at *
  omega

/-- The greatest number of keys that points join. -/
def maxKeys : Nat := 80

/-- Keys joined by points, of which there are not too many. -/
def keyPath (s : List Char) : Option (List String × Rest s) :=
  (dottedKey s).filter (fun p => decide (p.1.length ≤ maxKeys))

end RubyTree.Toml
