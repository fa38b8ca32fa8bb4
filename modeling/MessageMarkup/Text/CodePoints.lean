/-!
# Ranges of code points

Character properties of the Unicode standard, here of its version 15.1, are tables of ranges. This
module holds the lookup that all of them share.

## Main definitions

- `CodeRange` — a closed range of code points
- `inRanges` — whether a character lies in one of a list of ranges
-/

namespace MessageMarkup.Text

/-- The code points from the first component to the second, both included. -/
abbrev CodeRange := Nat × Nat

def CodeRange.contains (r : CodeRange) (n : Nat) : Bool :=
  r.1 ≤ n && n ≤ r.2

/-- Whether a character lies in one of the ranges. -/
def inRanges (ranges : List CodeRange) (c : Char) : Bool :=
  ranges.any (CodeRange.contains · c.toNat)

end MessageMarkup.Text
