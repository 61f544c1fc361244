/-
Edit distance with transpositions.

`within budget a b` decides whether `a` becomes `b` by at most `budget` edits. An edit inserts,
deletes or replaces one character, or swaps two neighbouring ones; characters between the two may
be deleted before the swap and inserted after it, each for one edit of its own, so that `ca` is two
edits away from `abc`.
-/

namespace RubyTree.Text.EditDistance

/-- Whether `a` becomes `b` by at most `budget` edits. The last alternative is a swap: the first
character of `b` stands in `a` behind `i` deleted characters, and the first character of `a` stands
in `b` behind `j` inserted ones. -/
def within (budget : Nat) : List Char → List Char → Bool
  | [], b => decide (b.length ≤ budget)
  | a, [] => decide (a.length ≤ budget)
  | x :: a, y :: b =>
    (x == y && within budget a b)
      || (decide (0 < budget) && (within (budget - 1) a (y :: b)
        || within (budget - 1) (x :: a) b
        || within (budget - 1) a b))
      || (List.range budget).any (fun i => (List.range budget).any (fun j =>
        decide (i + j < budget) && a[i]? == some y && b[j]? == some x
          && within (budget - (i + j + 1)) (a.drop (i + 1)) (b.drop (j + 1))))
termination_by a b => a.length + b.length
decreasing_by all_goals (simp only [List.length_cons, List.length_drop]; omega)

/-- The number of edits from `a` to `b`, when it is at most `limit`. -/
def upTo? (limit : Nat) (a b : String) : Option Nat :=
  (List.range (limit + 1)).find? (fun k => within k a.toList b.toList)

end RubyTree.Text.EditDistance
