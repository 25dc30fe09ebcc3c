/-!
Contract: sets of characters given by closed ranges of code points.

Owns:
- `CodeRanges` and its membership test.

Does not own: the tables of particular properties.
-/

namespace SealedEnv.Text

/-- Closed ranges of code points, first and last. -/
abbrev CodeRanges := List (Nat × Nat)

namespace CodeRanges

/-- Holds of the characters that lie in one of the ranges. -/
def contains (ranges : CodeRanges) (c : Char) : Bool :=
  ranges.any fun (first, last) => first ≤ c.toNat && c.toNat ≤ last

end CodeRanges

end SealedEnv.Text
