/-
Quoted texts are unambiguous.

A character is written in one of three forms: a short escape, its code point, or itself
(`QuoteForm`). No form of a character is the beginning of a form of another one, and none begins
with a quote, so a quoted text ends where its closing quote stands and gives its characters back,
whatever is written behind it (`quoteChars_append_inj`).
-/

import RubyTree.Text.Quoted

namespace RubyTree.Text

/-! ### Texts up to a stop -/

/-- Two texts without stops that are followed by one are the same when the whole is. -/
theorem append_inj_of_stop {stop : Char → Prop} {x y r s : List Char} {c d : Char}
    (hx : ∀ e ∈ x, ¬ stop e) (hy : ∀ e ∈ y, ¬ stop e) (hc : stop c) (hd : stop d)
    (h : x ++ c :: r = y ++ d :: s) : x = y ∧ c :: r = d :: s := by
  induction x generalizing y with
  | nil =>
    cases y with
    | nil => exact ⟨rfl, h⟩
    | cons e y =>
      have same : c = e := (List.cons.inj h).1
      exact absurd hc (same ▸ hy e List.mem_cons_self)
  | cons e x ih =>
    obtain ⟨first, others⟩ := List.forall_mem_cons.mp hx
    cases y with
    | nil =>
      have same : e = d := (List.cons.inj h).1
      exact absurd hd (same ▸ first)
    | cons f y =>
      obtain ⟨rfl, rest⟩ := List.cons.inj h
      obtain ⟨rfl, behind⟩ := ih others (List.forall_mem_cons.mp hy).2 rest
      exact ⟨rfl, behind⟩

/-! ### Hexadecimal digits -/

theorem digitChar_inj {m n : Nat} (hm : m < 16) (hn : n < 16) (h : m.digitChar = n.digitChar) :
    m = n := by
  have table : ∀ m < 16, ∀ n < 16, m.digitChar = n.digitChar → m = n := by decide
  exact table m hm n hn h

/-- The digits of a number are read off its remainder and its quotient. -/
theorem hexDigits_eq (n : Nat) :
    hexDigits n = if n < 16 then [n.digitChar] else hexDigits (n / 16) ++ [(n % 16).digitChar] :=
  Nat.toDigits_eq_if (by decide)

theorem hexDigits_inj {m n : Nat} (h : hexDigits m = hexDigits n) : m = n := by
  induction m using Nat.strongRecOn generalizing n with
  | ind m ih =>
    rw [hexDigits_eq m, hexDigits_eq n] at h
    split at h <;> split at h
    · rename_i hm hn
      exact digitChar_inj hm hn (List.cons.inj h).1
    · exact absurd (congrArg List.length h) (by simp [hexDigits, Nat.toDigits_ne_nil])
    · exact absurd (congrArg List.length h) (by simp [hexDigits, Nat.toDigits_ne_nil])
    · rename_i hm hn
      obtain ⟨quotients, remainders⟩ := List.append_inj' h rfl
      have quotient := ih (m / 16) (by omega) quotients
      have remainder := digitChar_inj (Nat.mod_lt _ (by decide)) (Nat.mod_lt _ (by decide))
        (List.cons.inj remainders).1
      omega

theorem close_not_mem_hexDigits (n : Nat) : '\x7d' ∉ hexDigits n := by
  induction n using Nat.strongRecOn with
  | ind n ih =>
    have other : ∀ k : Nat, '\x7d' ≠ k.digitChar := fun k =>
      (Nat.digitChar_ne '\x7d' (by decide)).symm
    rw [hexDigits_eq]
    split
    · simp [other]
    · simp only [List.mem_append, List.mem_singleton, not_or]
      exact ⟨ih _ (by omega), other _⟩

/-! ### Characters -/

/-- The characters with short escapes, and the letters of the escapes. -/
def shortEscapes : List (Char × Char) :=
  [(Char.ofNat 0, '0'), ('\t', 't'), ('\r', 'r'), ('\n', 'n'), ('"', '"'), ('\\', '\\')]

/-- The forms in which a character is written. -/
inductive QuoteForm (c : Char) : List Char → Prop where
  | short {letter : Char} (h : (c, letter) ∈ shortEscapes) : QuoteForm c ['\\', letter]
  | code : QuoteForm c (['\\', 'u', '\x7b'] ++ hexDigits c.toNat ++ ['\x7d'])
  | plain (quote : c ≠ '"') (backslash : c ≠ '\\') : QuoteForm c [c]

/-- Every character is written in one of the forms. -/
theorem quoteForm (c : Char) : QuoteForm c (quoteChar c) := by
  unfold quoteChar
  iterate 6
    split
    · rename_i special
      exact .short (by rw [special]; decide)
  split
  · exact .code
  · rename_i quote backslash _
    exact .plain quote backslash

/-- No form of a character begins with a quote. -/
theorem QuoteForm.ne_quote {c : Char} {text rest : List Char} (h : QuoteForm c text)
    (tail : List Char) : text ++ tail ≠ '"' :: rest := by
  cases h with
  | short => exact fun heq => absurd (List.cons.inj heq).1 (by decide)
  | code => exact fun heq => absurd (List.cons.inj heq).1 (by decide)
  | plain quote => exact fun heq => quote (List.cons.inj heq).1

/-- The letter of a short escape tells the character, and is never that of a code point. -/
theorem shortEscapes_inj {c d letter : Char} (hc : (c, letter) ∈ shortEscapes)
    (hd : (d, letter) ∈ shortEscapes) : c = d ∧ letter ≠ 'u' := by
  have table : ∀ p ∈ shortEscapes, ∀ q ∈ shortEscapes, p.2 = q.2 → p.1 = q.1 ∧ p.2 ≠ 'u' := by
    decide
  exact table _ hc _ hd rfl

/-- A character is told from its form, whatever stands behind it. -/
theorem QuoteForm.append_inj {c d : Char} {x y r s : List Char} (hx : QuoteForm c x)
    (hy : QuoteForm d y) (h : x ++ r = y ++ s) : c = d ∧ r = s := by
  cases hx with
  | short hc =>
    cases hy with
    | short hd =>
      obtain ⟨rfl, rest⟩ := List.cons.inj (List.cons.inj h).2
      exact ⟨(shortEscapes_inj hc hd).1, rest⟩
    | code => exact absurd (List.cons.inj (List.cons.inj h).2).1 (shortEscapes_inj hc hc).2
    | plain _ backslash => exact absurd (List.cons.inj h).1.symm backslash
  | code =>
    cases hy with
    | short hd => exact absurd (List.cons.inj (List.cons.inj h).2).1.symm (shortEscapes_inj hd hd).2
    | code =>
      simp only [List.append_assoc, List.append_cancel_left_eq, List.singleton_append] at h
      have digits : ∀ n : Nat, ∀ e ∈ hexDigits n, ¬ e = '\x7d' := by
        rintro n e he rfl
        exact close_not_mem_hexDigits n he
      obtain ⟨same, rest⟩ := append_inj_of_stop (digits _) (digits _) rfl rfl h
      exact ⟨Char.toNat_inj.mp (hexDigits_inj same), (List.cons.inj rest).2⟩
    | plain _ backslash => exact absurd (List.cons.inj h).1.symm backslash
  | plain _ backslash =>
    cases hy with
    | short => exact absurd (List.cons.inj h).1 backslash
    | code => exact absurd (List.cons.inj h).1 backslash
    | plain => exact List.cons.inj h

/-! ### Texts -/

/-- Characters can be told from their quoted text, whatever stands behind the closing quote. -/
theorem flatMap_quoteChar_inj {cs ds r s : List Char}
    (h : cs.flatMap quoteChar ++ '"' :: r = ds.flatMap quoteChar ++ '"' :: s) :
    cs = ds ∧ r = s := by
  induction cs generalizing ds with
  | nil =>
    cases ds with
    | nil => exact ⟨rfl, (List.cons.inj h).2⟩
    | cons d ds =>
      rw [List.flatMap_cons, List.append_assoc] at h
      exact absurd h.symm ((quoteForm d).ne_quote _)
  | cons c cs ih =>
    rw [List.flatMap_cons, List.append_assoc] at h
    cases ds with
    | nil => exact absurd h ((quoteForm c).ne_quote _)
    | cons d ds =>
      rw [List.flatMap_cons, List.append_assoc] at h
      obtain ⟨rfl, rest⟩ := (quoteForm c).append_inj (quoteForm d) h
      obtain ⟨rfl, behind⟩ := ih rest
      exact ⟨rfl, behind⟩

/-- A text is told from its quoted form, whatever stands behind it. -/
theorem quoteChars_append_inj {cs ds r s : List Char}
    (h : quoteChars cs ++ r = quoteChars ds ++ s) : cs = ds ∧ r = s := by
  refine flatMap_quoteChar_inj ?_
  simpa [quoteChars] using h

end RubyTree.Text
