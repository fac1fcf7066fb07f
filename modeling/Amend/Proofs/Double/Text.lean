import Amend.Double.Shortest
import Amend.Proofs.Decimal.Text

/-!
# Doubles read back from their text

The text of a finite double spells the decimal that is the reading of the double (`ofText?_text`). This holds
of any digits and any place of the point, whether or not they are the fewest that read back as the double.
There are three layouts: a whole number with a zero after the point, digits around a point, and one digit
before the point and an exponent behind.
-/

namespace Amend.Double

open Decimal

namespace Digits

variable (s : Digits)

/-- Digits all of which stand before the point read back, with the zero after it. -/
theorem readFinite?_whole_zero {c : Nat} {point : Int} (n : Bool) (h : (digitCount c : Int) ≤ point) :
    readFinite? n (pointed (Nat.toDigits 10 c) point ++ ['.', '0']) =
      some (.finite n (c * 10 ^ (point.toNat - digitCount c + 1)) (-1)) := by
  have hpos := digitCount_pos c
  have hlen : (Nat.toDigits 10 c).length = digitCount c := rfl
  have hwhole : ∀ d ∈ Nat.toDigits 10 c ++ List.replicate (point.natAbs - digitCount c) '0',
      d.isDigit = true := by
    intro d hd
    rcases List.mem_append.1 hd with hd | hd
    · exact isDigit_of_mem_digits hd
    · rw [List.eq_of_mem_replicate hd]
      rfl
  have hzero : ∀ d ∈ ['0'], d.isDigit = true := by simp
  have hread := readFinite?_pointed n (List.append_ne_nil_of_left_ne_nil Nat.toDigits_ne_nil _) hwhole hzero
    noDigitAhead_nil rfl
  rw [pointed, if_neg (by omega), hlen, if_pos h]
  rw [List.append_nil] at hread
  -- the zero after the point is one more of the zeros behind the digits
  have hzeros : List.replicate (point.natAbs - digitCount c) '0' ++ ['0'] =
      List.replicate (point.toNat - digitCount c + 1) '0' := by
    rw [show point.natAbs = point.toNat by omega, List.replicate_succ']
  rw [hread, List.append_assoc, hzeros, ofDigitChars_append_zeros]
  rfl

/-- The mark, sign and digits of an exponent, which has at least two digits. -/
def exponentTail (e : Int) : List Char :=
  let width := Nat.toDigits 10 e.natAbs
  'e' :: (if e < 0 then '-' else '+') :: ((if width.length = 1 then ['0'] else []) ++ width)

/-- The exponent of a double reads back. -/
theorem readExponent?_exponentTail (e : Int) : readExponent? (exponentTail e) = some e := by
  have hpad : (if (Nat.toDigits 10 e.natAbs).length = 1 then ['0'] else []) =
      List.replicate (if (Nat.toDigits 10 e.natAbs).length = 1 then 1 else 0) '0' := by
    split <;> rfl
  rw [exponentTail, hpad]
  exact readExponent?_signed (Or.inl rfl) _ e

/-- Digits read back as the decimal that they spell. -/
theorem readFinite?_chars (n : Bool) : readFinite? n s.chars = some (s.toDecimal n) := by
  have hpos := digitCount_pos s.digits
  have hlen : (Nat.toDigits 10 s.digits).length = digitCount s.digits := rfl
  simp only [chars, toDecimal, hlen]
  by_cases hpositional : s.positional = true
  · rw [if_pos hpositional]
    by_cases hwhole : (digitCount s.digits : Int) ≤ s.point
    · rw [if_pos hwhole, if_pos ⟨hpositional, hwhole⟩]
      exact readFinite?_whole_zero n hwhole
    · have hread : readFinite? n (pointed (Nat.toDigits 10 s.digits) s.point ++ []) =
          some (.finite n s.digits (0 + s.point - digitCount s.digits)) :=
        readFinite?_pointed_digits n noDigitAhead_nil (by simp) rfl (by omega)
      rw [if_neg hwhole, if_neg fun h => hwhole h.2, hread, Int.zero_add]
  · have hlayout : ¬ (s.positional = true ∧ (digitCount s.digits : Int) ≤ s.point) := fun h =>
      hpositional h.1
    rw [if_neg hpositional, if_neg hlayout]
    have hread : readFinite? n (pointed (Nat.toDigits 10 s.digits) 1 ++ exponentTail (s.point - 1)) =
        some (.finite n s.digits (s.point - 1 + 1 - digitCount s.digits)) :=
      readFinite?_pointed_digits n (noDigitAhead_cons rfl _) (by simp [exponentTail])
        (readExponent?_exponentTail _) (by omega)
    rw [Int.sub_add_cancel] at hread
    exact hread

/-- The characters of digits start with a digit. -/
theorem exists_cons_chars : ∃ d rest, s.chars = d :: rest ∧ d.isDigit = true := by
  simp only [chars]
  split
  · exact exists_cons_pointed _ _ _
  · exact exists_cons_pointed _ _ _

end Digits

/-- A finite double is read back from its text as the decimal that is its reading. -/
theorem ofText?_text {x : Double} (h : x.isFinite = true) : Decimal.ofText? x.text = some x.reading := by
  cases x with
  | finite n m q canonical =>
    rw [Decimal.ofText?, text, String.toList_ofList]
    exact ofChars?_signChars (Digits.exists_cons_chars _) (Digits.readFinite?_chars _ n)
  | infinite n => cases h
  | nan mark => cases h

end Amend.Double
