import Amend.Decimal.Basic

/-!
# Double-precision numbers

A finite double is a mantissa of at most fifty-three bits times a power of two. Only the canonical
pair is admitted, the one whose mantissa has all fifty-three bits unless the exponent is the least, so
two doubles are equal as data exactly if they are the same double. All arithmetic on them here is
exact arithmetic on integers.

`Double.toExact` gives the exact value of a double as a decimal.
-/

namespace Amend

/-- A mantissa and exponent that some double has: the mantissa is full unless the exponent is least. -/
def Double.Canonical (mantissa : Nat) (exponent : Int) : Prop :=
  mantissa < 2 ^ 53 ∧ -1074 ≤ exponent ∧ exponent ≤ 971 ∧ (2 ^ 52 ≤ mantissa ∨ exponent = -1074)

instance (m : Nat) (q : Int) : Decidable (Double.Canonical m q) := by
  unfold Double.Canonical
  infer_instance

/-- A double-precision number. -/
inductive Double where
  /-- The number `± mantissa * 2 ^ exponent`. -/
  | finite (negative : Bool) (mantissa : Nat) (exponent : Int)
      (canonical : Double.Canonical mantissa exponent)
  | infinite (negative : Bool)
  /-- Not a number. The mark only tells one of them from another. -/
  | nan (mark : Nat)
  deriving DecidableEq

namespace Double

/-- Zero, which has a sign. -/
def zero (negative : Bool) : Double :=
  .finite negative 0 (-1074) (by decide)

instance : Inhabited Double := ⟨zero false⟩

/-- True of everything but the infinities and what is not a number. -/
def isFinite : Double → Bool
  | .finite .. => true
  | _ => false

/-- True of both zeros. -/
def isZero : Double → Bool
  | .finite _ m _ _ => m == 0
  | _ => false

/-- The exact value of a double as a decimal: a negative power of two is the same power of five,
shifted by as many places. -/
def toExact : Double → Decimal
  | .finite n m q _ =>
    if 0 ≤ q then .finite n (m * 2 ^ q.toNat) 0 else .finite n (m * 5 ^ (-q).toNat) q
  | .infinite n => .infinite n
  | .nan mark => .nan false false 0 mark

end Double

end Amend
