/-
S-expressions are unambiguous.

The s-expression of a legible tree, one without floating point numbers and without a comma or a
closing bracket in the name of a symbol, tells the tree up to identities and spans. A child is known
by its first character (`Child.kindOf_head`). Tags, symbols and numbers reach up to the comma or the
bracket behind them, while quoted texts and nodes end by themselves; so one child after the other is
told from what is written, whatever stands behind the last one (`Child.Told`, `Node.Told`).
-/

import RubyTree.Node.Sexp
import RubyTree.Proofs.Node.Descent
import RubyTree.Proofs.Node.Equality
import RubyTree.Proofs.Tags
import RubyTree.Proofs.Text.Quoted

namespace RubyTree

/-! ### Legible trees -/

mutual

/-- Whether a tree can be told from its s-expression: it has no floating point numbers, and no
symbol with a comma or a closing bracket. -/
def Node.isLegible : Node → Bool
  | .mk _ _ cs _ => Child.areLegible cs

def Child.isLegible : Child → Bool
  | .node n => Node.isLegible n
  | .sym name => !name.toList.contains ',' && !name.toList.contains ')'
  | .float _ => false
  | _ => true

def Child.areLegible : List Child → Bool
  | [] => true
  | c :: cs => Child.isLegible c && Child.areLegible cs

end

theorem Child.areLegible_iff {cs : List Child} :
    Child.areLegible cs = true ↔ ∀ c ∈ cs, c.isLegible = true := by
  induction cs with
  | nil => simp [areLegible]
  | cons c cs ih => simp [areLegible, ih]

theorem Node.isLegible_iff {n : Node} :
    n.isLegible = true ↔ ∀ c ∈ n.children, c.isLegible = true := by
  cases n with
  | mk id type children span => rw [isLegible, Child.areLegible_iff, Node.children]

/-! ### Words -/

namespace Sexp

/-- The characters behind which a child is complete. -/
def Stop (c : Char) : Prop :=
  c = ',' ∨ c = ')'

/-- What stands behind a child begins with a stop. -/
def Stopped (r : List Char) : Prop :=
  ∃ c t, r = c :: t ∧ Stop c

/-- A word without stops ends where the first stop stands. -/
theorem word_append_inj {x y r s : List Char} (hx : ∀ e ∈ x, ¬ Stop e) (hy : ∀ e ∈ y, ¬ Stop e)
    (hr : Stopped r) (hs : Stopped s) (h : x ++ r = y ++ s) : x = y ∧ r = s := by
  obtain ⟨c, r, rfl, hc⟩ := hr
  obtain ⟨d, s, rfl, hd⟩ := hs
  exact Text.append_inj_of_stop hx hy hc hd h

/-- No tag has a character behind which a child is complete. -/
theorem not_stop_of_mem_tag {t : NodeType} : ∀ e ∈ t.tag.toList, ¬ Stop e := by
  have table : NodeType.all.all
      (fun t => t.tag.toList.all fun e => e != ',' && e != ')') = true := by decide +kernel
  have clear := List.all_eq_true.mp (List.all_eq_true.mp table t t.mem_all)
  rintro e he (rfl | rfl) <;> exact absurd (clear _ he) (by decide)

/-- The characters of a whole number are its digits, with a minus sign in front when it is
negative. -/
theorem toString_int_cases (i : Int) :
    (0 ≤ i ∧ (toString i).toList = Nat.toDigits 10 i.toNat) ∨
      (i < 0 ∧ (toString i).toList = '-' :: Nat.toDigits 10 (-i).toNat) := by
  rw [Int.toString_eq_repr, Int.repr_eq_if]
  split
  · rename_i positive
    exact .inl ⟨positive, Nat.toList_repr⟩
  · rename_i negative
    refine .inr ⟨Int.not_le.mp negative, ?_⟩
    rw [String.toList_append, Nat.toList_repr]
    rfl

theorem not_stop_of_isDigit {c : Char} (h : c.isDigit = true) : ¬ Stop c := by
  rintro (rfl | rfl) <;> cases h

theorem not_stop_of_mem_int {i : Int} : ∀ e ∈ (toString i).toList, ¬ Stop e := by
  have digits : ∀ n : Nat, ∀ e ∈ Nat.toDigits 10 n, ¬ Stop e := fun n e he =>
    not_stop_of_isDigit (Nat.isDigit_of_mem_toDigits (by decide) (by decide) he)
  obtain ⟨-, h⟩ | ⟨-, h⟩ := toString_int_cases i <;> rw [h]
  · exact digits _
  · exact List.forall_mem_cons.mpr ⟨by simp [Stop], digits _⟩

/-- Different whole numbers are written differently: digits give their number back, and none of
them is a minus sign. -/
theorem toString_int_inj {i j : Int} (h : (toString i).toList = (toString j).toList) : i = j := by
  have digits : ∀ {m n : Nat}, Nat.toDigits 10 m = Nat.toDigits 10 n → m = n := by
    intro m n h
    have values := congrArg (fun ds => Nat.ofDigitChars 10 ds 0) h
    rwa [Nat.ofDigitChars_ten_toDigits, Nat.ofDigitChars_ten_toDigits] at values
  have unsigned : ∀ {m n : Nat}, Nat.toDigits 10 m ≠ '-' :: Nat.toDigits 10 n := by
    intro m n h
    have sign : '-' ∈ Nat.toDigits 10 m := by rw [h]; exact List.mem_cons_self
    exact absurd (Nat.isDigit_of_mem_toDigits (by decide) (by decide) sign) (by decide)
  obtain ⟨hi, si⟩ | ⟨hi, si⟩ := toString_int_cases i <;>
    obtain ⟨hj, sj⟩ | ⟨hj, sj⟩ := toString_int_cases j <;> rw [si, sj] at h
  · have := digits h
    omega
  · exact absurd h unsigned
  · exact absurd h.symm unsigned
  · have := digits (List.cons.inj h).2
    omega

/-! ### Kinds -/

/-- The kinds of children that are told apart by the first character. -/
inductive Kind where
  | nil
  | node
  | sym
  | str
  | bool
  | number

/-- The kind of child that begins with a character. -/
def kindOf (c : Char) : Kind :=
  if c = 'n' then .nil
  else if c = 's' then .node
  else if c = ':' then .sym
  else if c = '"' then .str
  else if c = 't' ∨ c = 'f' then .bool
  else .number

theorem kindOf_isDigit {c : Char} (h : c.isDigit = true) : kindOf c = .number := by
  have other : ∀ d : Char, d.isDigit = false → c ≠ d := by
    rintro d hd rfl
    rw [h] at hd
    cases hd
  simp [kindOf, other 'n' rfl, other 's' rfl, other ':' rfl, other '"' rfl, other 't' rfl,
    other 'f' rfl]

/-- An integer begins like a number. -/
theorem kindOf_head_int (i : Int) :
    ∃ c t, (toString i).toList = c :: t ∧ kindOf c = .number := by
  obtain ⟨-, h⟩ | ⟨-, h⟩ := toString_int_cases i
  · obtain ⟨c, t, digits⟩ :=
      List.exists_cons_of_ne_nil (Nat.toDigits_ne_nil (n := i.toNat) (b := 10))
    have member : c ∈ Nat.toDigits 10 i.toNat := by rw [digits]; exact List.mem_cons_self
    exact ⟨c, t, h.trans digits,
      kindOf_isDigit (Nat.isDigit_of_mem_toDigits (by decide) (by decide) member)⟩
  · exact ⟨'-', _, h, rfl⟩

end Sexp

/-- The kind of a child. -/
def Child.kind : Child → Sexp.Kind
  | .nil => .nil
  | .node _ => .node
  | .sym _ => .sym
  | .str _ => .str
  | .int _ => .number
  | .float _ => .number
  | .bool _ => .bool

/-- The first character of a child tells its kind. -/
theorem Child.kindOf_head {c : Child} (h : c.isLegible = true) :
    ∃ first t, c.sexpChars = first :: t ∧ Sexp.kindOf first = c.kind := by
  cases c with
  | nil => exact ⟨_, _, rfl, rfl⟩
  | node n =>
    cases n with
    | mk id type children span => exact ⟨_, _, rfl, rfl⟩
  | sym name => exact ⟨_, _, rfl, rfl⟩
  | str text => exact ⟨_, _, rfl, rfl⟩
  | int i => exact Sexp.kindOf_head_int i.toInt
  | float x => cases h
  | bool b => cases b <;> exact ⟨_, _, rfl, rfl⟩

/-- Legible children that begin with the same character are of one kind. -/
theorem Child.kind_eq {c d : Child} {r s : List Char} (hc : c.isLegible = true)
    (hd : d.isLegible = true) (h : c.sexpChars ++ r = d.sexpChars ++ s) : c.kind = d.kind := by
  obtain ⟨first, t, hct, kind⟩ := Child.kindOf_head hc
  obtain ⟨first', t', hdt, kind'⟩ := Child.kindOf_head hd
  rw [hct, hdt] at h
  have same : first = first' := (List.cons.inj h).1
  rw [← kind, ← kind', same]

/-! ### Telling a tree from what is written -/

section

variable {eq : Float → Float → Bool}

/-- A node is told from its s-expression, whatever stands behind it. -/
def Node.Told (eq : Float → Float → Bool) (n : Node) : Prop :=
  ∀ ⦃m : Node⦄ ⦃r s : List Char⦄, m.isLegible = true →
    n.sexpChars ++ r = m.sexpChars ++ s → n.EqualBy eq m ∧ r = s

/-- A child is told from its s-expression when a stop stands behind it. -/
def Child.Told (eq : Float → Float → Bool) (c : Child) : Prop :=
  ∀ ⦃d : Child⦄ ⦃r s : List Char⦄, d.isLegible = true → Sexp.Stopped r → Sexp.Stopped s →
    c.sexpChars ++ r = d.sexpChars ++ s → c.EqualBy eq d ∧ r = s

/-- A legible symbol has no character behind which a child is complete. -/
theorem Child.not_stop_of_mem_sym {name : String} (h : (Child.sym name).isLegible = true) :
    ∀ e ∈ name.toList, ¬ Sexp.Stop e := by
  simp only [isLegible, Bool.and_eq_true, Bool.not_eq_true', List.contains_eq_mem,
    decide_eq_false_iff_not] at h
  rintro e he (rfl | rfl)
  · exact h.1 he
  · exact h.2 he

/-- A child is told when the node in it is. -/
theorem Child.told {c : Child} (hc : c.isLegible = true) (below : ∀ n, c = .node n → n.Told eq) :
    c.Told eq := by
  intro d r s hd hr hs h
  -- the first characters agree, so the two children are of one kind
  have kinds := Child.kind_eq hc hd h
  rw [Child.equalBy_iff_paired]
  cases c with
  | nil =>
    cases d with
    | nil => exact ⟨.nil, List.append_cancel_left h⟩
    | _ => cases kinds
  | node n =>
    cases d with
    | node m =>
      -- a node ends by itself, so the stops are not asked for
      obtain ⟨same, behind⟩ := below n rfl hd h
      exact ⟨.node same, behind⟩
    | _ => cases kinds
  | sym name =>
    cases d with
    | sym name' =>
      obtain ⟨same, behind⟩ := Sexp.word_append_inj (Child.not_stop_of_mem_sym hc)
        (Child.not_stop_of_mem_sym hd) hr hs (List.cons.inj h).2
      exact ⟨String.toList_inj.mp same ▸ .sym name, behind⟩
    | _ => cases kinds
  | str text =>
    cases d with
    | str text' =>
      obtain ⟨same, behind⟩ := Text.quoteChars_append_inj h
      exact ⟨String.toList_inj.mp same ▸ .str text, behind⟩
    | _ => cases kinds
  | int i =>
    cases d with
    | int j =>
      obtain ⟨same, behind⟩ :=
        Sexp.word_append_inj Sexp.not_stop_of_mem_int Sexp.not_stop_of_mem_int hr hs h
      exact ⟨Int64.toInt_inj.mp (Sexp.toString_int_inj same) ▸ .int i, behind⟩
    | float => cases hd
    | _ => cases kinds
  | float => cases hc
  | bool b =>
    cases d with
    | bool b' =>
      cases b <;> cases b'
      case false.false => exact ⟨.bool _, List.append_cancel_left h⟩
      case true.true => exact ⟨.bool _, List.append_cancel_left h⟩
      all_goals exact absurd (List.cons.inj h).1 (by decide)
    | _ => cases kinds

/-- What stands behind a type or a child begins with a stop. -/
theorem Child.sexpTail_stopped (cs : List Child) (r : List Char) :
    Sexp.Stopped (Child.sexpTail cs ++ r) := by
  cases cs with
  | nil => exact ⟨')', r, rfl, .inr rfl⟩
  | cons c cs => exact ⟨',', _, rfl, .inl rfl⟩

/-- Children that are told one by one are told together, with the bracket that ends them. -/
theorem Child.sexpTail_append_inj {cs ds : List Child} {r s : List Char}
    (each : ∀ c ∈ cs, c.Told eq) (hd : ∀ d ∈ ds, d.isLegible = true)
    (h : Child.sexpTail cs ++ r = Child.sexpTail ds ++ s) :
    List.Forall₂ (Child.EqualBy eq) cs ds ∧ r = s := by
  induction cs generalizing ds with
  | nil =>
    cases ds with
    | nil => exact ⟨.nil, (List.cons.inj h).2⟩
    | cons => exact absurd (List.cons.inj h).1 (by decide)
  | cons c cs ih =>
    cases ds with
    | nil => exact absurd (List.cons.inj h).1 (by decide)
    | cons d ds =>
      obtain ⟨first, others⟩ := List.forall_mem_cons.mp each
      obtain ⟨hd, hds⟩ := List.forall_mem_cons.mp hd
      simp only [sexpTail, List.append_assoc, List.append_cancel_left_eq] at h
      -- what follows the first child is a comma or the bracket, and that is where the child ends
      obtain ⟨same, rest⟩ :=
        first hd (Child.sexpTail_stopped cs r) (Child.sexpTail_stopped ds s) h
      obtain ⟨pairs, behind⟩ := ih others hds rest
      exact ⟨.cons same pairs, behind⟩

theorem Node.sexpChars_def (n : Node) :
    n.sexpChars = ['s', '(', ':'] ++ n.type.tag.toList ++ Child.sexpTail n.children := by
  cases n with
  | mk id type children span => rw [sexpChars, Node.type, Node.children]

/-- A node is told when its children are. -/
theorem Node.told_of_children {n : Node} (each : ∀ c ∈ n.children, c.Told eq) : n.Told eq := by
  intro m r s hm h
  simp only [Node.sexpChars_def, List.append_assoc, List.append_cancel_left_eq] at h
  obtain ⟨tag, rest⟩ := Sexp.word_append_inj Sexp.not_stop_of_mem_tag Sexp.not_stop_of_mem_tag
    (Child.sexpTail_stopped n.children r) (Child.sexpTail_stopped m.children s) h
  obtain ⟨pairs, behind⟩ := Child.sexpTail_append_inj each (Node.isLegible_iff.mp hm) rest
  have types : n.type = m.type := NodeType.tag_inj (String.toList_inj.mp tag)
  exact ⟨Node.equalBy_iff.mpr ⟨types, pairs⟩, behind⟩

/-- Every legible node is told. -/
theorem Node.told (n : Node) (h : n.isLegible = true) : n.Told eq := by
  induction n using Node.induction_holds with
  | step n ih =>
    refine Node.told_of_children fun c hc => ?_
    have hl := Node.isLegible_iff.mp h c hc
    refine Child.told hl ?_
    rintro m rfl
    exact ih m (.own hc) hl

/-! ### Equal trees are written alike -/

theorem Child.sexpTail_eq {cs ds : List Child}
    (each : ∀ c ∈ cs, ∀ d, c.EqualBy eq d → c.sexpChars = d.sexpChars)
    (h : List.Forall₂ (Child.EqualBy eq) cs ds) : Child.sexpTail cs = Child.sexpTail ds := by
  induction h with
  | nil => rfl
  | cons same _ ih =>
    obtain ⟨first, others⟩ := List.forall_mem_cons.mp each
    rw [sexpTail, sexpTail, first _ same, ih others]

/-- Equal children are written alike when the nodes in them are. -/
theorem Child.sexpChars_eq {c d : Child} (hc : c.isLegible = true) (h : c.EqualBy eq d)
    (below : ∀ n m, c = .node n → n.EqualBy eq m → n.sexpChars = m.sexpChars) :
    c.sexpChars = d.sexpChars := by
  cases Child.equalBy_iff_paired.mp h with
  | node h => exact below _ _ rfl h
  | float => cases hc
  | _ => rfl

/-- Equal nodes are written alike when they are legible. -/
theorem Node.sexpChars_eq {a b : Node} (ha : a.isLegible = true) (h : a.EqualBy eq b) :
    a.sexpChars = b.sexpChars := by
  induction a using Node.induction_holds generalizing b with
  | step a ih =>
    obtain ⟨types, pairs⟩ := Node.equalBy_iff.mp h
    have each : ∀ c ∈ a.children, ∀ d, c.EqualBy eq d → c.sexpChars = d.sexpChars := by
      intro c hc d hcd
      have hl := Node.isLegible_iff.mp ha c hc
      refine Child.sexpChars_eq hl hcd ?_
      rintro n m rfl hnm
      exact ih n (.own hc) hl hnm
    have tails : Child.sexpTail a.children = Child.sexpTail b.children :=
      Child.sexpTail_eq each pairs
    rw [Node.sexpChars_def, Node.sexpChars_def, types, tails]

end

/-! ### The theorem -/

/-- S-expressions of legible trees are the same when the trees are equal, and only then; and none is
the beginning of another one. -/
theorem Node.sexp_unambiguous {a b : Node} (ha : a.isLegible = true) (hb : b.isLegible = true) :
    (a.sexp = b.sexp ↔ (a == b) = true) ∧
      (a.sexp.toList <+: b.sexp.toList → a.sexp = b.sexp) := by
  have told : a.Told (· == ·) := Node.told a ha
  simp only [sexp, String.toList_ofList, String.ofList_inj]
  refine ⟨⟨fun same => ?_, Node.sexpChars_eq ha⟩, ?_⟩
  · exact (told hb (congrArg (· ++ []) same)).1
  · rintro ⟨rest, whole⟩
    obtain ⟨-, rfl⟩ := told hb (whole.trans (List.append_nil _).symm)
    rwa [List.append_nil] at whole

/-- A text that imitates the children behind it is not taken for them. -/
theorem Node.sexp_unambiguous_imitation :
    let a : Node := .mk 0 .arrayLit [.str "x\", :y, s(:array", .int Int64.minValue] none
    let b : Node := .mk 2 .arrayLit
      [.str "x", .sym "y", .node (.mk 1 .arrayLit [.int Int64.minValue] none)] none
    a.isLegible = true ∧ b.isLegible = true ∧ a.sexp ≠ b.sexp ∧
      ¬ a.sexp.toList <+: b.sexp.toList := by
  intro a b
  have ha : a.isLegible = true := by decide
  have hb : b.isLegible = true := by decide
  obtain ⟨same_iff, beginning_eq⟩ := Node.sexp_unambiguous ha hb
  have apart : a.sexp ≠ b.sexp := fun same => absurd (same_iff.mp same) (by decide)
  exact ⟨ha, hb, apart, fun beginning => apart (beginning_eq beginning)⟩

end RubyTree
