import Amend.Proofs.Decimal.Text
import Mathlib.Algebra.Field.Rat
import Mathlib.Algebra.Order.Ring.Rat
import Mathlib.Tactic.Ring

/-!
# Exact sums of decimals

A finite decimal stands for a rational number. The sum of two of them is written at the smaller of their
two exponents, where both are whole, so nothing is rounded: the sum stands for the sum of the two numbers
(`value_sum`).
-/

namespace Amend.Decimal

/-- The coefficient of a decimal with its sign. -/
def signed (negative : Bool) (coefficient : Nat) : Int :=
  if negative then -coefficient else coefficient

/-- The number that a finite decimal stands for. -/
def value? : Decimal → Option ℚ
  | .finite n c e => some (signed n c * 10 ^ e)
  | _ => none

/-- The exact sum of two finite decimals. -/
def sum? : Decimal → Decimal → Option Decimal
  | .finite n c e, .finite m d f =>
    let place := min e f
    let total := signed n c * 10 ^ (e - place).toNat + signed m d * 10 ^ (f - place).toNat
    some (.finite (decide (total < 0)) total.natAbs place)
  | _, _ => none

/-- A finite decimal stands for a number. -/
theorem exists_value? {d : Decimal} (h : d.isFinite = true) : ∃ x, d.value? = some x := by
  cases d with
  | finite n c e => exact ⟨_, rfl⟩
  | infinite n => cases h
  | nan n s p m => cases h

/-- What has a sum with something is finite. -/
theorem isFinite_of_sum? {x y z : Decimal} (h : sum? x y = some z) : x.isFinite = true := by
  cases x with
  | finite n c e => rfl
  | infinite n => cases h
  | nan n s p m => cases h

/-- An integer is its sign and its size. -/
theorem signed_natAbs (n : Int) : signed (decide (n < 0)) n.natAbs = n := by
  by_cases h : n < 0
  · simp only [signed, h, decide_true, if_true]
    omega
  · simp only [signed, h, decide_false, Bool.false_eq_true, if_false]
    omega

/-- A power of ten and what is missing to a higher one make the higher one. -/
theorem zpow_toNat_mul {place e : Int} (h : place ≤ e) :
    ((10 : ℚ) ^ (e - place).toNat) * 10 ^ place = 10 ^ e := by
  rw [← zpow_natCast, Int.toNat_of_nonneg (by omega), ← zpow_add₀ (by norm_num)]
  congr 1
  omega

/-- The sum of two decimals stands for the sum of their numbers. -/
theorem value_sum {x y : Decimal} {a b : ℚ} (hx : x.value? = some a) (hy : y.value? = some b) :
    ∃ z, sum? x y = some z ∧ z.isFinite = true ∧ z.value? = some (a + b) := by
  cases x with
  | finite n c e =>
    cases y with
    | finite m d f =>
      obtain rfl := Option.some.inj hx
      obtain rfl := Option.some.inj hy
      refine ⟨_, rfl, rfl, ?_⟩
      rw [value?, signed_natAbs, Int.cast_add, Int.cast_mul, Int.cast_mul, Int.cast_pow, Int.cast_pow,
        add_mul, mul_assoc, mul_assoc]
      rw [Int.cast_ofNat, zpow_toNat_mul (min_le_left e f), zpow_toNat_mul (min_le_right e f)]
    | infinite m => cases hy
    | nan m s p k => cases hy
  | infinite n => cases hx
  | nan n s p k => cases hx

end Amend.Decimal
