/-
Reading JSON.

Each reader takes the rest of the text and returns a value with a strictly shorter rest, or the
first fault. Arrays and objects nest at most `maxDepth - 1` deep. Of members with the same key the
last one stays. An integer is kept as it is when it fits a signed or an unsigned word, and is a
floating point number otherwise; so is `-0`.
-/

import RubyTree.Decimal.Nearest
import RubyTree.Json.Basic
import RubyTree.Json.Fault
import RubyTree.Text.Hex

namespace RubyTree.Json.Reader

/-- The nesting depth that is refused. -/
def maxDepth : Nat := 128

/-- A rest that is shorter than `s`. -/
abbrev Rest (s : List Char) : Type :=
  { r : List Char // r.length < s.length }

/-- A fault at the first character of the rest, or at the end of the text. -/
def stop {α : Type} (cause : Cause) (rest : List Char) : Except Fault α :=
  .error ⟨cause, rest, 1⟩

/-- Whether a character may stand between tokens. -/
def isSpace (c : Char) : Bool :=
  c == ' ' || c == '\n' || c == '\t' || c == '\r'

def skip (s : List Char) : List Char :=
  s.dropWhile isSpace

theorem length_skip_le (s : List Char) : (skip s).length ≤ s.length :=
  (List.dropWhile_suffix isSpace).length_le

theorem length_lt_of_skip_eq {s t : List Char} {c : Char} (h : skip s = c :: t) :
    t.length < s.length := by
  have hle := length_skip_le s
  rw [h, List.length_cons] at hle
  omega

/-! ### Names and numbers -/

/-- The rest behind the characters of a name. -/
def name : List Char → List Char → Except Fault (List Char)
  | [], s => .ok s
  | _ :: _, [] => stop .endInValue []
  | c :: cs, d :: s => if c = d then name cs s else stop .expectedIdent (d :: s)

theorem length_name_le {cs s r : List Char} (h : name cs s = .ok r) : r.length ≤ s.length := by
  induction cs generalizing s with
  | nil => simp only [name, Except.ok.injEq] at h; simp [h]
  | cons c cs ih =>
    cases s with
    | nil => simp [name, stop] at h
    | cons d s =>
      simp only [name] at h
      split at h
      · exact Nat.le_succ_of_le (ih h)
      · simp [stop] at h

/-- An integer, which is a floating point number when it does not fit a word or is `-0`. -/
def integer? (negative : Bool) (n : Nat) : Option Number :=
  if negative then
    if 0 < n ∧ n ≤ 0x8000000000000000 then some (.int (-n))
    else (Decimal.nearest? true n 0).map .float
  else if n < Number.unsignedBound then some (.int n)
  else (Decimal.nearest? false n 0).map .float

/-- The largest exponent that is read as it stands. -/
def maxExponent : Nat := 0x7fffffff

/-- The digits of an exponent: its value, or the rest behind the digit with which it passes
`maxExponent`. -/
def exponent (value : Nat) : List Char → Except (List Char) Nat
  | [] => .ok value
  | d :: ds =>
    let next := 10 * value + (d.toNat - '0'.toNat)
    if maxExponent < next then .error ds else exponent next ds

/-- The digits at the front, and the rest behind them. -/
def digits (s : List Char) : List Char × List Char :=
  (s.takeWhile Char.isDigit, s.dropWhile Char.isDigit)

theorem length_digits_le (s : List Char) : (digits s).2.length ≤ s.length :=
  (List.dropWhile_suffix Char.isDigit).length_le

/-- A fault right before the rest. -/
def stopBefore {α : Type} (cause : Cause) (rest : List Char) : Except Fault α :=
  .error ⟨cause, rest, 0⟩

/-- A number from its digits: `whole` before the point, `part` behind it, and the text that starts
at the exponent's sign or first digit. -/
def power (negative : Bool) (whole part s : List Char) :
    Except Fault (Number × { r : List Char // r.length ≤ s.length }) :=
  let signed : Bool × { t : List Char // t.length ≤ s.length } := match s with
    | '+' :: t => (false, ⟨t, by simp⟩)
    | '-' :: t => (true, ⟨t, by simp⟩)
    | t => (false, ⟨t, Nat.le_refl _⟩)
  let s' := signed.2.val
  let mantissa := Decimal.ofDigits (whole ++ part)
  match hs : digits s' with
  | ([], []) => stop .endInValue []
  | ([], r) => stop .invalidNumber r
  | (ds, r) =>
    have h : r.length ≤ s.length := by
      have h1 := length_digits_le s'
      have h2 := signed.2.property
      rw [hs] at h1
      exact Nat.le_trans h1 h2
    match exponent 0 ds with
    | .error left =>
      if mantissa ≠ 0 ∧ signed.1 = false then stopBefore .numberOutOfRange (left ++ r)
      else .ok (.float (if negative then -0.0 else 0.0), ⟨r, h⟩)
    | .ok e =>
      let shift : Int := (if signed.1 then -(e : Int) else e) - part.length
      match Decimal.nearest? negative mantissa shift with
      | some x => .ok (.float x, ⟨r, h⟩)
      | none => stopBefore .numberOutOfRange r

/-- What may follow the digits before the point. -/
def fraction (negative : Bool) (whole s : List Char) :
    Except Fault (Number × { r : List Char // r.length ≤ s.length }) :=
  match s with
  | '.' :: t =>
    match hs : digits t with
    | ([], []) => stop .endInValue []
    | ([], r) => stop .invalidNumber r
    | (ds, r) =>
      have h : r.length ≤ t.length := by
        have h1 := length_digits_le t
        rwa [hs] at h1
      let done : Except Fault (Number × { r : List Char // r.length ≤ ('.' :: t).length }) :=
        match Decimal.nearest? negative (Decimal.ofDigits (whole ++ ds)) (-(ds.length : Int)) with
        | some x => .ok (.float x, ⟨r, Nat.le_succ_of_le h⟩)
        | none => stopBefore .numberOutOfRange r
      match r with
      | c :: u =>
        if c = 'e' ∨ c = 'E' then do
          let (n, ⟨v, hv⟩) ← power negative whole ds u
          .ok (n, ⟨v, by simp only [List.length_cons] at h ⊢; omega⟩)
        else done
      | [] => done
  | c :: u =>
    if c = 'e' ∨ c = 'E' then do
      let (n, ⟨v, hv⟩) ← power negative whole [] u
      .ok (n, ⟨v, Nat.le_succ_of_le hv⟩)
    else
      match integer? negative (Decimal.ofDigits whole) with
      | some n => .ok (n, ⟨c :: u, Nat.le_refl _⟩)
      | none => stopBefore .numberOutOfRange (c :: u)
  | [] =>
    match integer? negative (Decimal.ofDigits whole) with
    | some n => .ok (n, ⟨[], Nat.le_refl _⟩)
    | none => stopBefore .numberOutOfRange []

def startsWithDigit : List Char → Bool
  | d :: _ => d.isDigit
  | [] => false

/-- A number behind its sign. A digit may not follow a leading zero. -/
def number (negative : Bool) (s : List Char) : Except Fault (Number × Rest s) :=
  match s with
  | [] => stop .endInValue []
  | c :: t =>
    if c = '0' ∧ startsWithDigit t then stop .invalidNumber t
    else if c.isDigit then do
      let (n, ⟨r, h⟩) ← fraction negative (c :: (digits t).1) (digits t).2
      .ok (n, ⟨r, by have := length_digits_le t; simp only [List.length_cons]; omega⟩)
    else stop .invalidNumber (c :: t)

/-! ### Strings -/

/-- Four hexadecimal digits. Four bytes are taken before they are judged. -/
def hex4 (s : List Char) : Except Fault (Nat × Rest s) :=
  if Text.byteLength (s.take 4) < 4 then stopBefore .endInString []
  else
    match s with
    | a :: b :: c :: d :: r =>
      match Text.hexValue? a, Text.hexValue? b, Text.hexValue? c, Text.hexValue? d with
      | some a, some b, some c, some d =>
        .ok (((a * 16 + b) * 16 + c) * 16 + d, ⟨r, by simp only [List.length_cons]; omega⟩)
      | _, _, _, _ => .error ⟨.invalidEscape, s, 4⟩
    | _ => .error ⟨.invalidEscape, s, 4⟩

/-- The rest behind the character `c` of a surrogate pair's second escape. -/
def second (c : Char) (s : List Char) : Except Fault (Rest s) :=
  match s with
  | [] => stop .endInString []
  | d :: t => if d = c then .ok ⟨t, by simp⟩ else stop .endOfHexEscape (d :: t)

/-- The character of a `\u` escape. A code unit of the upper surrogates needs a second escape with
one of the lower surrogates. -/
def unicode (s : List Char) : Except Fault (Char × Rest s) := do
  let (n, ⟨r, h⟩) ← hex4 s
  if 0xdc00 ≤ n ∧ n ≤ 0xdfff then stopBefore .loneSurrogate r
  else if n < 0xd800 ∨ 0xdbff < n then .ok (Char.ofNat n, ⟨r, h⟩)
  else
    let ⟨r1, h1⟩ ← second '\\' r
    let ⟨r2, h2⟩ ← second 'u' r1
    let (n2, ⟨r3, h3⟩) ← hex4 r2
    if n2 < 0xdc00 ∨ 0xdfff < n2 then stopBefore .loneSurrogate r3
    else .ok (Char.ofNat ((n - 0xd800) * 0x400 + (n2 - 0xdc00) + 0x10000), ⟨r3, by omega⟩)

/-- The character of an escape with one letter. -/
def shortEscape? : Char → Option Char
  | '"' => some '"'
  | '\\' => some '\\'
  | '/' => some '/'
  | 'b' => some '\x08'
  | 'f' => some '\x0c'
  | 'n' => some '\n'
  | 'r' => some '\r'
  | 't' => some '\t'
  | _ => none

/-- The characters of a string up to its closing quote, `done` being those read, last one first. -/
def chars (done : List Char) (s : List Char) : Except Fault (String × Rest s) :=
  match s with
  | [] => stop .endInString []
  | '"' :: t => .ok (String.ofList done.reverse, ⟨t, by simp⟩)
  | '\\' :: t =>
    match t with
    | [] => stop .endInString []
    | 'u' :: u => do
      let (c, ⟨r, h⟩) ← unicode u
      let (text, ⟨r', h'⟩) ← chars (c :: done) r
      .ok (text, ⟨r', by simp only [List.length_cons]; omega⟩)
    | e :: u =>
      match shortEscape? e with
      | none => stop .invalidEscape (e :: u)
      | some c => do
        let (text, ⟨r', h'⟩) ← chars (c :: done) u
        .ok (text, ⟨r', by simp only [List.length_cons]; omega⟩)
  | c :: t =>
    if c.toNat < 0x20 then stop .controlCharacter (c :: t)
    else do
      let (text, ⟨r', h'⟩) ← chars (c :: done) t
      .ok (text, ⟨r', by simp only [List.length_cons]; omega⟩)
termination_by s.length
decreasing_by all_goals (simp only [List.length_cons]; omega)

/-! ### Values -/

/-- A value that is written as a name, of which `cs` is left to be read. -/
def word {s t : List Char} (cs : List Char) (v : Json) (h : t.length < s.length) :
    Except Fault (Json × Rest s) :=
  match hr : name cs t with
  | .ok r => .ok (v, ⟨r, Nat.lt_of_le_of_lt (length_name_le hr) h⟩)
  | .error f => .error f

mutual

/-- A value, with `depth` levels of nesting left. -/
def value (depth : Nat) (s : List Char) : Except Fault (Json × Rest s) :=
  match hs : skip s with
  | [] => stop .endInValue []
  | c :: t =>
    have ht := length_lt_of_skip_eq hs
    if c = 'n' then word ['u', 'l', 'l'] .null ht
    else if c = 't' then word ['r', 'u', 'e'] (.bool true) ht
    else if c = 'f' then word ['a', 'l', 's', 'e'] (.bool false) ht
    else if c = '-' then do
      let (n, ⟨r, h⟩) ← number true t
      .ok (.num n, ⟨r, by omega⟩)
    else if c.isDigit then do
      let (n, ⟨r, h⟩) ← number false (c :: t)
      .ok (.num n, ⟨r, by simp only [List.length_cons] at h; omega⟩)
    else if c = '"' then do
      let (text, ⟨r, h⟩) ← chars [] t
      .ok (.str text, ⟨r, by omega⟩)
    else if c = '[' then
      if depth ≤ 1 then stop .tooDeep (c :: t)
      else
        match hu : skip t with
        | [] => stop .endInList []
        | ']' :: u => .ok (.arr [], ⟨u, by have := length_lt_of_skip_eq hu; omega⟩)
        | _ :: _ => do
          let (vs, ⟨r, h⟩) ← elements (depth - 1) t
          .ok (.arr vs, ⟨r, by omega⟩)
    else if c = '\x7b' then
      if depth ≤ 1 then stop .tooDeep (c :: t)
      else
        match hu : skip t with
        | [] => stop .endInObject []
        | '\x7d' :: u => .ok (.obj [], ⟨u, by have := length_lt_of_skip_eq hu; omega⟩)
        | _ :: _ => do
          let (ms, ⟨r, h⟩) ← members (depth - 1) [] t
          .ok (.obj ms, ⟨r, by omega⟩)
    else stop .expectedValue (c :: t)
termination_by 2 * s.length

/-- The items of an array from the next one on, and the rest behind its end. -/
def elements (depth : Nat) (s : List Char) : Except Fault (List Json × Rest s) := do
  let (v, ⟨r, h⟩) ← value depth s
  match hr : skip r with
  | [] => stop .endInList []
  | ']' :: t => .ok ([v], ⟨t, by have := length_lt_of_skip_eq hr; omega⟩)
  | ',' :: t =>
    have ht := length_lt_of_skip_eq hr
    match skip t with
    | ']' :: u => stop .trailingComma (']' :: u)
    | _ =>
      let (vs, ⟨r', h'⟩) ← elements depth t
      .ok (v :: vs, ⟨r', by omega⟩)
  | c :: t => stop .expectedListEnd (c :: t)
termination_by 2 * s.length + 1

/-- The members of an object from the next one on, added to those before it, and the rest behind
its end. -/
def members (depth : Nat) (before : List (String × Json)) (s : List Char) :
    Except Fault (List (String × Json) × Rest s) :=
  match hs : skip s with
  | [] => stop .endInValue []
  | '"' :: t => do
    have ht := length_lt_of_skip_eq hs
    let (key, ⟨r, h⟩) ← chars [] t
    match hr : skip r with
    | [] => stop .endInObject []
    | ':' :: u =>
      have hu := length_lt_of_skip_eq hr
      let (v, ⟨r', h'⟩) ← value depth u
      match hr' : skip r' with
      | [] => stop .endInObject []
      | '\x7d' :: w =>
        .ok (put key v before, ⟨w, by have := length_lt_of_skip_eq hr'; omega⟩)
      | ',' :: w =>
        have hw := length_lt_of_skip_eq hr'
        match skip w with
        | '\x7d' :: x => stop .trailingComma ('\x7d' :: x)
        | _ =>
          let (ms, ⟨r'', h''⟩) ← members depth (put key v before) w
          .ok (ms, ⟨r'', by omega⟩)
      | c :: w => stop .expectedObjectEnd (c :: w)
    | c :: u => stop .expectedColon (c :: u)
  | c :: t => stop .keyNotString (c :: t)
termination_by 2 * s.length

end

end RubyTree.Json.Reader

namespace RubyTree.Json

def read (text : String) : Except Fault Json := do
  let (v, ⟨r, _⟩) ← Reader.value Reader.maxDepth text.toList
  match Reader.skip r with
  | [] => .ok v
  | c :: t => Reader.stop .trailingCharacters (c :: t)

end RubyTree.Json
