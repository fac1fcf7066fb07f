import Amend.Double.Basic
import Amend.HalfEven

/-!
# The fewest digits that read back

A double is written with the fewest decimal digits that read back as the same double, and of the
shortest ones with those nearest to its value. `shortest` finds them: the reals that round to a double
form an interval, with its ends included exactly if the mantissa is even, and for one digit, two
digits and so on the two points of the decimal grid around the value are tried. If any point of a grid
lies in the interval then one of these two does.

The digits are then laid out positionally for numbers between `0.0001` and `10 ^ 16`, with at least one
digit after the point, and otherwise with an exponent of at least two digits.
-/

namespace Amend.Double

/-- Digits read as a whole number, and where the point stands before, between or behind them: the value
is `0.digits * 10 ^ point`. -/
structure Digits where
  digits : Nat
  point : Int
  deriving DecidableEq, Repr

/-- The power of ten at which the leading digit of the positive fraction `num / den` stands. -/
def decade (num den : Nat) : Int :=
  if den ≤ num then Decimal.digitCount (num / den) - 1
  else
    let k := Decimal.digitCount (den / num)
    if num * 10 ^ (k - 1) = den then 1 - (k : Int) else -(k : Int)

/-- The point of the grid of multiples of `10 ^ place` that is nearest to `mantissa * 2 ^ exponent`
among those that read back, as a number of grid steps. Everything is counted in quarters of the last
bit, so that the ends of the interval are whole. -/
def onGrid? (mantissa : Nat) (exponent place : Int) : Option Nat :=
  let unit := 2 ^ (exponent - 2).toNat * 10 ^ (-place).toNat
  let step := 10 ^ place.toNat * 2 ^ (2 - exponent).toNat
  let value := 4 * mantissa * unit
  -- below a power of two the doubles lie twice as close, unless the exponent is the least
  let low := (if mantissa = 2 ^ 52 ∧ -1074 < exponent then 4 * mantissa - 1 else 4 * mantissa - 2) * unit
  let high := (4 * mantissa + 2) * unit
  let inside (x : Nat) : Bool :=
    if mantissa % 2 = 0 then low ≤ x && x ≤ high else low < x && x < high
  let below := value / step
  match inside (below * step), inside ((below + 1) * step) with
  | true, true => some (divHalfEven value step)
  | true, false => some below
  | false, true => some (below + 1)
  | false, false => none

/-- The fewest digits that read back as `mantissa * 2 ^ exponent`; seventeen always suffice. -/
def shortest (mantissa : Nat) (exponent : Int) : Digits :=
  let top := decade (mantissa * 2 ^ exponent.toNat) (2 ^ (-exponent).toNat)
  let found := (List.range 17).findSome? fun (n : Nat) =>
    -- a carry into a new digit leaves a zero at the end, which is not written
    let place := top - (n : Int)
    (onGrid? mantissa exponent place).map fun d =>
      if n + 1 < Decimal.digitCount d then (⟨d / 10, place + 1 + Decimal.digitCount (d / 10)⟩ : Digits)
      else ⟨d, place + Decimal.digitCount d⟩
  if mantissa = 0 then ⟨0, 1⟩ else found.getD ⟨mantissa, Decimal.digitCount mantissa⟩

/-- Digits are written positionally if the point stands at most three zeros before them and at most
sixteen places after their start. -/
def Digits.positional (s : Digits) : Bool :=
  -4 < s.point && s.point ≤ 16

/-- The characters of digits: `0.001`, `12.5`, `100.0`, `1e+16`, `2.5e-07`. -/
def Digits.chars (s : Digits) : List Char :=
  let digits := Nat.toDigits 10 s.digits
  if s.positional then
    Decimal.pointed digits s.point ++ (if (digits.length : Int) ≤ s.point then ['.', '0'] else [])
  else
    let e := s.point - 1
    let width := Nat.toDigits 10 e.natAbs
    Decimal.pointed digits 1 ++ 'e' :: (if e < 0 then '-' else '+') ::
      ((if width.length = 1 then ['0'] else []) ++ width)

/-- The decimal that the characters of digits spell: a whole number written positionally has one place
after the point. -/
def Digits.toDecimal (negative : Bool) (s : Digits) : Decimal :=
  let count := Decimal.digitCount s.digits
  if s.positional ∧ (count : Int) ≤ s.point then
    .finite negative (s.digits * 10 ^ (s.point.toNat - count + 1)) (-1)
  else
    .finite negative s.digits (s.point - count)

/-- The characters of a double. -/
def chars : Double → List Char
  | .finite n m q _ => Decimal.signChars n ++ (shortest m q).chars
  | .infinite n => Decimal.signChars n ++ "inf".toList
  | .nan _ => "nan".toList

/-- The text of a double. -/
def text (x : Double) : String :=
  String.ofList x.chars

/-- The decimal reading of a double: what its text says, not its exact value. -/
def reading : Double → Decimal
  | .finite n m q _ => (shortest m q).toDecimal n
  | .infinite n => .infinite n
  | .nan mark => .nan false false 0 mark

end Amend.Double
