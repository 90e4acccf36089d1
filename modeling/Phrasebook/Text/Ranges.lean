/-!
# Ranges of code points

A character class as the list of its inclusive ranges.
-/

namespace Phrasebook.Text

/-- A class of characters: inclusive ranges of code points. -/
abbrev Ranges := List (Nat × Nat)

/-- Whether the code point `c` lies in one of the ranges. -/
def Ranges.contains (ranges : Ranges) (c : Nat) : Bool :=
  ranges.any fun range => range.1 ≤ c && c ≤ range.2

end Phrasebook.Text
