/-!
# Character classes as ranges of code points

A character class is a list of closed intervals of code points. The tables of the larger
classes stand in modules of their own (`Text.Letter`, `Text.Lowercase`); this module says what
it means for a character to belong to one.

## Main definitions

* `CodeRanges`: a class, as its intervals
* `CodeRanges.contains`: membership of a character
-/

namespace SqlSearch.Text

/-- A character class: closed intervals of code points, in increasing order. -/
abbrev CodeRanges := List (Nat × Nat)

/-- The character lies in one of the intervals. -/
def CodeRanges.contains (ranges : CodeRanges) (c : Char) : Bool :=
  ranges.any fun r => decide (r.1 ≤ c.toNat) && decide (c.toNat ≤ r.2)

end SqlSearch.Text
