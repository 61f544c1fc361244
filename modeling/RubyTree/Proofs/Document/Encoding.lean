/-
Writing a tree as a document.

`Node.encode` writes a tree as a JSON value in which every node is an object with its tag, its
children and, where it has a span, its range, and in which symbols and strings are marked. Such a
value denotes the tree that it was written for (`Node.denotes_encode`), below parents of every type
and for all strings, because marked strings do not depend on the parent; so reading it gives that
tree back.
-/

import RubyTree.Proofs.Document.Grammar
import RubyTree.Proofs.Node.Links

namespace RubyTree

/-- The member `range` of a node with a span. -/
def Span.rangeMember : Option Span → List (String × Json)
  | none => []
  | some span => [("range", .arr [.num (.int span.start), .num (.int span.stop)])]

mutual

/-- A node as JSON. -/
def Node.encode : Node → Json
  | .mk _ type children span =>
    .obj ([("type", .str type.tag), ("children", .arr (Child.encodeAll children))]
      ++ Span.rangeMember span)

/-- A child as JSON; symbols and strings are marked as what they are. -/
def Child.encode : Child → Json
  | .nil => .null
  | .node n => Node.encode n
  | .sym name => .obj [("sym", .str name)]
  | .str text => .obj [("str", .str text)]
  | .int i => .num (.int i.toInt)
  | .float x => .num (.float x)
  | .bool b => .bool b

def Child.encodeAll : List Child → List Json
  | [] => []
  | c :: cs => Child.encode c :: Child.encodeAll cs

end

/-- All spans of nodes lie in one buffer. -/
def SpansIn (b : Buffer) (nodes : List Node) : Prop :=
  ∀ n ∈ nodes, ∀ span, n.span = some span → span.buffer = b

open Document

/-- The range that is written for a span denotes the span. -/
theorem denotesSpan_rangeMember {b : Buffer} (words : b.size < 2 ^ 64) {span : Option Span}
    (lies : ∀ s, span = some s → s.buffer = b) {members : List (String × Json)}
    (others : members.lookup "range" = none) :
    DenotesSpan (some b) (members ++ Span.rangeMember span) span := by
  cases span with
  | none =>
    refine .absent ?_
    rw [Span.rangeMember, List.append_nil, others]
  | some s =>
    obtain rfl := lies s rfl
    obtain ⟨order, inside, first, last⟩ := Text.isSome_cut?_iff.mp s.fits
    rw [Buffer.size, Text.byteLength_toList] at words
    -- a span fits its buffer, so its ends are words as well
    refine .range rfl ?_ ⟨by omega, by omega⟩ order inside first last
    rw [List.lookup_append, others]
    rfl

mutual

/-- A tree that is written as JSON is denoted by it. -/
theorem Node.denotes_encode {b : Buffer} (words : b.size < 2 ^ 64) :
    ∀ t : Node, SpansIn b t.subnodes → DenotesNode (some b) t.encode t.plain
  | .mk id type cs span, spans => by
    rw [Node.subnodes_eq] at spans
    rw [Node.encode, Node.plain]
    refine .object rfl (.array rfl) (denotesSpan_rangeMember words ?_ rfl) ?_
    · exact spans _ List.mem_cons_self
    · exact Child.denotes_encodeAll words type cs fun n hn => spans n (List.mem_cons_of_mem _ hn)

theorem Child.denotes_encodeAll {b : Buffer} (words : b.size < 2 ^ 64) (parent : NodeType) :
    ∀ cs : List Child, SpansIn b (cs.flatMap Child.subnodes) →
      DenotesChildren (some b) parent (Child.encodeAll cs) (Child.plains cs)
  | [], _ => .nil
  | c :: cs, spans => by
    rw [List.flatMap_cons] at spans
    rw [Child.encodeAll, Child.plains]
    refine .cons (Child.denotes_encode words parent c fun n hn => ?_)
      (Child.denotes_encodeAll words parent cs fun n hn => ?_)
    · exact spans n (List.mem_append_left _ hn)
    · exact spans n (List.mem_append_right _ hn)

theorem Child.denotes_encode {b : Buffer} (words : b.size < 2 ^ 64) (parent : NodeType) :
    ∀ c : Child, SpansIn b c.subnodes → DenotesChild (some b) parent c.encode c.plain
  | .node n, spans => by
    rw [Child.encode, Child.plain]
    exact .node (Node.denotes_encode words n spans)
  | .nil, _ => .scalar .null
  | .sym _, _ => .scalar (.markedSymbol rfl rfl rfl)
  | .str _, _ => .scalar (.markedString rfl rfl rfl)
  | .int i, _ => .scalar (.int i)
  | .float x, _ => .scalar (.float fun i h => by cases h)
  | .bool x, _ => .scalar (.bool x)

end

/-- **Reading undoes writing.** A tree whose spans lie in one buffer, which is not longer than a
word can count, is written as a value that is read back with that buffer: the reading succeeds with
a tree of the same types, scalars and spans. -/
theorem Document.build_encode (t : Node) (b : Buffer) (forest : Forest) (words : b.size < 2 ^ 64)
    (spans : SpansIn b t.subnodes) :
    ∃ n, (build t.encode (some b) forest).1 = .ok n ∧ n.plain = t.plain := by
  have denoted := Node.denotes_encode words t spans
  obtain ⟨n, b', read, plain⟩ := readers_complete.1 t.encode ⟨some b, [], forest, []⟩ _ denoted
  exact ⟨n, congrArg Prod.fst read, plain⟩

/-- Marked scalars and a node whose span ends behind a character of two bytes. -/
theorem Document.build_encode_marked :
    let b : Buffer := ⟨0, none, "é = 1"⟩
    let name : Span := ⟨b, 0, 2, by decide⟩
    let t : Node := .mk 1 .strLit
      [.sym "a", .str "\"", .int (-1), .node (.mk 0 .lvar [.sym "é"] (some name))] none
    ∃ n, (build t.encode (some b) .empty).1 = .ok n ∧ n.plain = t.plain := by
  intro b name t
  refine build_encode t b .empty (by decide) ?_
  intro n hn span hspan
  have nodes : t.subnodes = [t, .mk 0 .lvar [.sym "é"] (some name)] := rfl
  rw [nodes] at hn
  simp only [List.mem_cons, List.not_mem_nil, or_false] at hn
  rcases hn with rfl | rfl
  · cases hspan
  · cases hspan
    rfl

end RubyTree
