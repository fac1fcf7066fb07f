import Amend.Power

/-!
# Decimal numbers as written

A decimal keeps what its author wrote: `1.50` and `1.5` are equal in value but have different
coefficients and exponents, and different texts. So a finite decimal is a sign, a coefficient and a
power of ten, and the special numbers stand beside it.

`Decimal.text` writes a decimal, positionally where that needs no padding on the right and little on
the left, and otherwise with one digit before the point. `Decimal.ofText?` reads every such text back,
and the looser spellings people write.
-/

namespace Amend

/-- A decimal number as written. -/
inductive Decimal where
  /-- The number `± coefficient * 10 ^ exponent`; zero has a sign and an exponent too. -/
  | finite (negative : Bool) (coefficient : Nat) (exponent : Int)
  | infinite (negative : Bool)
  /-- Not a number. A payload of zero is not written, and the mark is never written: it only tells one
  of them from another. -/
  | nan (negative signalling : Bool) (payload mark : Nat)
  deriving DecidableEq, Repr, Inhabited

namespace Decimal

/-- How many digits a coefficient has; zero has one. -/
def digitCount (coefficient : Nat) : Nat :=
  (Nat.toDigits 10 coefficient).length

/-- Every coefficient has a digit. -/
theorem digitCount_pos (coefficient : Nat) : 0 < digitCount coefficient :=
  Nat.length_toDigits_pos

/-- A coefficient has at most `n` digits just if it is below the `n`th power of ten. -/
theorem digitCount_le_iff {coefficient n : Nat} (hn : 0 < n) :
    digitCount coefficient ≤ n ↔ coefficient < 10 ^ n :=
  Nat.length_toDigits_le_iff (by decide) hn

/-- The power of ten at which the leading digit stands. -/
def adjusted (coefficient : Nat) (exponent : Int) : Int :=
  exponent + digitCount coefficient - 1

/-- The decimal that is an integer. -/
def ofInt (n : Int) : Decimal :=
  .finite (decide (n < 0)) n.natAbs 0

/-- True of everything but the infinities and what is not a number. -/
def isFinite : Decimal → Bool
  | .finite .. => true
  | _ => false

/-- True of zero, whatever its sign and exponent. -/
def isZero : Decimal → Bool
  | .finite _ c _ => c == 0
  | _ => false

/-- True of what is not a number, signalling or quiet. -/
def isNaN : Decimal → Bool
  | .nan .. => true
  | _ => false

/-- True of what is not a number and refuses to be compared at all. -/
def isSignalling : Decimal → Bool
  | .nan _ s _ _ => s
  | _ => false

/-! ## Writing -/

/-- The mark of a negative number. -/
def signChars (negative : Bool) : List Char :=
  if negative then ['-'] else []

/-- The exponent mark of a decimal, with an explicit sign: `E+3`, `E-8`. -/
def exponentChars (e : Int) : List Char :=
  'E' :: (if e < 0 then '-' else '+') :: Nat.toDigits 10 e.natAbs

/-- Digits with a point after the first `place` of them; where `place` is not positive the number
starts with `0.` and as many zeros as are missing. -/
def pointed (digits : List Char) (place : Int) : List Char :=
  if place ≤ 0 then
    '0' :: '.' :: (List.replicate place.natAbs '0' ++ digits)
  else if (digits.length : Int) ≤ place then
    digits ++ List.replicate (place.natAbs - digits.length) '0'
  else
    digits.take place.natAbs ++ '.' :: digits.drop place.natAbs

/-- The characters of a decimal without its sign. It is written positionally when its exponent is not
positive and at most five zeros follow the point before the first digit. -/
def magnitudeChars (coefficient : Nat) (exponent : Int) : List Char :=
  let digits := Nat.toDigits 10 coefficient
  let place := exponent + digits.length
  if exponent ≤ 0 ∧ -6 < place then pointed digits place
  else pointed digits 1 ++ exponentChars (place - 1)

/-- The characters of a decimal. -/
def chars : Decimal → List Char
  | .finite n c e => signChars n ++ magnitudeChars c e
  | .infinite n => signChars n ++ "Infinity".toList
  | .nan n s payload _ =>
    signChars n ++ (if s then ['s'] else []) ++ "NaN".toList ++
      (if payload = 0 then [] else Nat.toDigits 10 payload)

/-- The text of a decimal. -/
def text (d : Decimal) : String :=
  String.ofList d.chars

/-! ## Reading -/

/-- An optional sign and what follows it. -/
def readSign : List Char → Bool × List Char
  | '-' :: rest => (true, rest)
  | '+' :: rest => (false, rest)
  | rest => (false, rest)

/-- A run of ASCII digits as a number, if it is one and not empty. -/
def readNat? (cs : List Char) : Option Nat :=
  if cs ≠ [] ∧ cs.all Char.isDigit then some (Nat.ofDigitChars 10 cs 0) else none

/-- The exponent that ends a decimal text: nothing, or a mark, an optional sign and digits. -/
def readExponent? : List Char → Option Int
  | [] => some 0
  | c :: rest =>
    if c = 'e' ∨ c = 'E' then
      (readNat? (readSign rest).2).map fun n => if (readSign rest).1 then -(n : Int) else n
    else none

/-- A coefficient with an optional point, and an optional exponent. -/
def readFinite? (negative : Bool) (cs : List Char) : Option Decimal :=
  let whole := cs.takeWhile Char.isDigit
  let rest := cs.dropWhile Char.isDigit
  let fraction := match rest with
    | '.' :: more => more.takeWhile Char.isDigit
    | _ => []
  let tail := match rest with
    | '.' :: more => more.dropWhile Char.isDigit
    | _ => rest
  if whole ++ fraction = [] then none
  else (readExponent? tail).map fun e =>
    .finite negative (Nat.ofDigitChars 10 (whole ++ fraction) 0) (e - fraction.length)

/-- The payload that may follow the letters of what is not a number. -/
def readPayload? (cs : List Char) : Option Nat :=
  if cs = [] then some 0 else readNat? cs

/-- The special numbers, in any case: `inf`, `infinity`, `nan` and `snan`, the last two with an
optional payload. -/
def readSpecial? (negative : Bool) (cs : List Char) : Option Decimal :=
  match cs.map Char.toLower with
  | ['i', 'n', 'f'] => some (.infinite negative)
  | ['i', 'n', 'f', 'i', 'n', 'i', 't', 'y'] => some (.infinite negative)
  | 'n' :: 'a' :: 'n' :: rest => (readPayload? rest).map (.nan negative false · 0)
  | 's' :: 'n' :: 'a' :: 'n' :: rest => (readPayload? rest).map (.nan negative true · 0)
  | _ => none

/-- The decimal that characters spell, if they spell one. -/
def ofChars? (cs : List Char) : Option Decimal :=
  let (negative, rest) := readSign cs
  (readFinite? negative rest).or (readSpecial? negative rest)

/-- The decimal that a text spells, if it spells one. -/
def ofText? (s : String) : Option Decimal :=
  ofChars? s.toList

end Decimal

end Amend
