/-!
# Ranges of code points

A property of characters is given as a sorted list of disjoint ranges of code points. The list is
turned into a balanced search tree once, and each question walks one path of the tree.
-/

namespace PayoffLexer.Unicode

/-- A search tree whose nodes hold the first and last code point of a range. -/
inductive RangeTree
  | leaf
  | node (left : RangeTree) (first last : Nat) (right : RangeTree)

namespace RangeTree

def contains : RangeTree → Nat → Bool
  | leaf, _ => false
  | node left first last right, code =>
    if code < first then left.contains code
    else if code ≤ last then true
    else right.contains code

/-- A tree of the given depth over as many ranges as it can hold, and the ranges left over. -/
def fill : Nat → List (Nat × Nat) → RangeTree × List (Nat × Nat)
  | 0, ranges => (leaf, ranges)
  | depth + 1, ranges =>
    match fill depth ranges with
    | (left, []) => (left, [])
    | (left, (first, last) :: rest) =>
      let (right, others) := fill depth rest
      (node left first last right, others)

/-- The tree over a sorted list; `n` ranges fit a tree of depth `log2 n + 1`. -/
def ofSorted (ranges : List (Nat × Nat)) : RangeTree :=
  (fill (ranges.length.log2 + 1) ranges).1

end RangeTree

end PayoffLexer.Unicode
