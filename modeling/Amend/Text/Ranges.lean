/-!
# Ranges of code points

The tables of characters in this folder are lists of ranges in increasing order. Looking a code point up
stops at the first range that starts above it.
-/

namespace Amend.Text

/-- Whether a number lies in one of some ranges, each given by its first and last number. -/
def inRanges (n : Nat) : List (Nat × Nat) → Bool
  | [] => false
  | r :: rest => r.1 ≤ n && (n ≤ r.2 || inRanges n rest)

end Amend.Text
