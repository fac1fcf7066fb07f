import Amend.Text.CharClass

/-!
# Integers as people write them

White space around an integer does not matter, its digits may be those of any script, and a single low
line may stand between two of them.
-/

namespace Amend.Text

/-- White space that may stand around an integer: all but the four separators of records. -/
def surrounds (c : Char) : Bool :=
  isBlank c && !(0x1C ≤ c.toNat && c.toNat ≤ 0x1F)

/-- Characters without those around them that pass a test. -/
def trimmed (test : Char → Bool) (cs : List Char) : List Char :=
  ((cs.dropWhile test).reverse.dropWhile test).reverse

/-- Digits, among which single low lines have been left out, or nothing if there is anything else. -/
def groupedDigits? : List Char → Option (List Char)
  | [] => none
  | [c] => if isDigit c then some [c] else none
  | c :: '_' :: rest => if isDigit c then (groupedDigits? rest).map (c :: ·) else none
  | c :: rest => if isDigit c then (groupedDigits? rest).map (c :: ·) else none

/-- The integer that a text spells, if it spells one. -/
def intOfText? (s : String) : Option Int :=
  match trimmed surrounds s.toList with
  | '-' :: rest => (groupedDigits? rest).map fun ds => -(digitsValue ds : Int)
  | '+' :: rest => (groupedDigits? rest).map fun ds => (digitsValue ds : Int)
  | rest => (groupedDigits? rest).map fun ds => (digitsValue ds : Int)

end Amend.Text
