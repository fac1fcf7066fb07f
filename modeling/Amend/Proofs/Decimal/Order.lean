import Amend.Decimal.Order
import Amend.Proofs.Decimal.Sum
import Mathlib.Algebra.Order.Field.Basic
import Mathlib.Order.Compare
import Mathlib.Order.WithBot

/-!
# Decimals on the number line

A decimal stands somewhere on the number line, which here has the two infinities as its ends, unless it is not a
number (`extended?`). Two decimals compare as the places where they stand (`compare?_eq`).

The sizes of two decimals are compared by their leading places first. This is right because a coefficient of `k`
digits lies between two neighbouring powers of ten (`bounds_of_ne_zero`), so a higher leading place makes the
greater number whatever the digits are. With equal leading places both coefficients are written at the smaller
exponent, which multiplies both sides by the same power of ten.
-/

namespace Amend

/-- The rational numbers with the two infinities as their ends. -/
abbrev ExtendedRat := WithBot (WithTop ℚ)

namespace Decimal

/-- Where a decimal stands on the number line. What is not a number stands nowhere. -/
def extended? : Decimal → Option ExtendedRat
  | .finite n c e => some ((signed n c * 10 ^ e : ℚ) : WithTop ℚ)
  | .infinite true => some ⊥
  | .infinite false => some ⊤
  | .nan .. => none

/-- A finite decimal stands where its number does. -/
theorem extended?_of_value? {d : Decimal} {x : ℚ} (h : d.value? = some x) :
    d.extended? = some ((x : WithTop ℚ) : ExtendedRat) := by
  cases d with
  | finite n c e =>
    obtain rfl := Option.some.inj h
    rfl
  | infinite n => cases h
  | nan n s p m => cases h

/-- Only what is not a number stands nowhere. -/
theorem extended?_eq_none_iff {d : Decimal} : d.extended? = none ↔ d.isNaN = true := by
  cases d with
  | infinite n => cases n <;> simp [extended?, isNaN]
  | _ => simp [extended?, isNaN]

/-- Powers of ten are positive. -/
theorem ten_zpow_pos (e : Int) : (0 : ℚ) < 10 ^ e :=
  zpow_pos (by norm_num) e

/-! ## Leading places -/

section Magnitude

variable {c c₁ c₂ : Nat} {e e₁ e₂ : Int}

/-- A coefficient that is not zero lies between the powers of ten that have as many digits and one more. -/
theorem pow_digitCount_bounds (hc : c ≠ 0) : 10 ^ (digitCount c - 1) ≤ c ∧ c < 10 ^ digitCount c := by
  have hpos := digitCount_pos c
  refine ⟨?_, (digitCount_le_iff hpos).1 (le_refl _)⟩
  by_cases hone : digitCount c = 1
  · rw [hone]
    exact Nat.one_le_iff_ne_zero.2 hc
  · rw [← Nat.not_lt, ← digitCount_le_iff (by omega)]
    omega

/-- The leading place of a number that is not zero is its greatest power of ten. -/
theorem bounds_of_ne_zero (hc : c ≠ 0) (e : Int) :
    (10 : ℚ) ^ adjusted c e ≤ c * 10 ^ e ∧ (c : ℚ) * 10 ^ e < 10 ^ (adjusted c e + 1) := by
  obtain ⟨hlow, hhigh⟩ := pow_digitCount_bounds hc
  have hpos := digitCount_pos c
  have hunit := ten_zpow_pos e
  have hlowest : (10 : ℚ) ^ adjusted c e = (10 : ℚ) ^ (digitCount c - 1) * 10 ^ e := by
    rw [← zpow_natCast, ← zpow_add₀ (by norm_num), adjusted]
    congr 1
    omega
  have hhighest : (10 : ℚ) ^ (adjusted c e + 1) = (10 : ℚ) ^ digitCount c * 10 ^ e := by
    rw [← zpow_natCast, ← zpow_add₀ (by norm_num), adjusted]
    congr 1
    omega
  rw [hlowest, hhighest]
  constructor
  · apply mul_le_mul_of_nonneg_right _ hunit.le
    exact_mod_cast hlow
  · apply mul_lt_mul_of_pos_right _ hunit
    exact_mod_cast hhigh

/-- The number with the higher leading place is the greater one. -/
theorem lt_of_adjusted_lt (hc₁ : c₁ ≠ 0) (hc₂ : c₂ ≠ 0) (h : adjusted c₁ e₁ < adjusted c₂ e₂) :
    (c₁ : ℚ) * 10 ^ e₁ < c₂ * 10 ^ e₂ :=
  calc (c₁ : ℚ) * 10 ^ e₁ < 10 ^ (adjusted c₁ e₁ + 1) := (bounds_of_ne_zero hc₁ e₁).2
    _ ≤ 10 ^ adjusted c₂ e₂ := zpow_le_zpow_right₀ (by norm_num) (by omega)
    _ ≤ c₂ * 10 ^ e₂ := (bounds_of_ne_zero hc₂ e₂).1

/-- A coefficient at a smaller exponent has more zeros at its end. -/
theorem mul_pow_mul_zpow {place : Int} (c : Nat) (h : place ≤ e) :
    ((c * 10 ^ (e - place).toNat : Nat) : ℚ) * 10 ^ place = c * 10 ^ e := by
  rw [Nat.cast_mul, Nat.cast_pow, Nat.cast_ofNat, mul_assoc, zpow_toNat_mul h]

/-- Sizes compare as the numbers that they are. -/
theorem compareMagnitude_eq (c₁ : Nat) (e₁ : Int) (c₂ : Nat) (e₂ : Int) :
    compareMagnitude c₁ e₁ c₂ e₂ = cmp ((c₁ : ℚ) * 10 ^ e₁) (c₂ * 10 ^ e₂) := by
  -- at one exponent the coefficients decide
  have hsame (c d : Nat) (e : Int) : cmp ((c : ℚ) * 10 ^ e) (d * 10 ^ e) = compare c d := by
    rw [cmp_mul_pos_right (ten_zpow_pos e), Nat.strictMono_cast.cmp_map_eq, cmp_eq_compare]
  rw [compareMagnitude]
  by_cases hzero : c₁ = 0 ∨ c₂ = 0
  · rw [if_pos hzero]
    rcases hzero with rfl | rfl
    · rw [← hsame 0 c₂ e₂, Nat.cast_zero, zero_mul, zero_mul]
    · rw [← hsame c₁ 0 e₁, Nat.cast_zero, zero_mul, zero_mul]
  · rw [if_neg hzero]
    rw [not_or] at hzero
    cases hplaces : compare (adjusted c₁ e₁) (adjusted c₂ e₂) with
    | lt =>
      have hlt := lt_of_adjusted_lt hzero.1 hzero.2 (compare_lt_iff_lt.1 hplaces)
      exact ((cmp_eq_lt_iff _ _).2 hlt).symm
    | gt =>
      have hlt := lt_of_adjusted_lt hzero.2 hzero.1 (compare_gt_iff_gt.1 hplaces)
      exact ((cmp_eq_gt_iff _ _).2 hlt).symm
    | eq =>
      show compare (c₁ * 10 ^ (e₁ - min e₁ e₂).toNat) (c₂ * 10 ^ (e₂ - min e₁ e₂).toNat) = _
      rw [← hsame _ _ (min e₁ e₂), mul_pow_mul_zpow c₁ (min_le_left e₁ e₂),
        mul_pow_mul_zpow c₂ (min_le_right e₁ e₂)]

end Magnitude

/-! ## Signs -/

section Signs

variable {n : Bool} {c : Nat}

/-- A coefficient is signed as it is unless it is less than zero. -/
theorem signed_of_nonneg (h : (n && c != 0) = false) : signed n c = c := by
  cases n with
  | false => rfl
  | true =>
    obtain rfl : c = 0 := by simpa using h
    rfl

/-- A coefficient less than zero is signed as the negative of a positive number. -/
theorem signed_of_neg (h : (n && c != 0) = true) : signed n c = -(c : Int) ∧ 0 < c := by
  obtain ⟨rfl, hc⟩ := Bool.and_eq_true_iff.1 h
  exact ⟨rfl, Nat.pos_of_ne_zero (by simpa using hc)⟩

/-- A coefficient is signed as less than zero only if there is a sign and it is not zero. -/
theorem signed_nonneg_iff : 0 ≤ signed n c ↔ n = false ∨ c = 0 := by
  cases n with
  | false => simp [signed]
  | true => simp [signed]

/-- The size of a signed coefficient is the coefficient. -/
theorem abs_signed : |signed n c| = c := by
  cases n with
  | false => exact abs_of_nonneg c.cast_nonneg
  | true => exact (abs_neg _).trans (abs_of_nonneg c.cast_nonneg)

/-- A power of a positive base does not change a sign. -/
theorem signed_mul_zpow_nonneg_iff {b : ℚ} (hb : 0 < b) (e : Int) :
    0 ≤ (signed n c : ℚ) * b ^ e ↔ n = false ∨ c = 0 := by
  rw [mul_nonneg_iff_of_pos_right (zpow_pos hb e), Int.cast_nonneg_iff, signed_nonneg_iff]

/-- Two finite decimals compare as their numbers do. -/
theorem compare?_finite (n₁ : Bool) (c₁ : Nat) (e₁ : Int) (n₂ : Bool) (c₂ : Nat) (e₂ : Int) :
    compare? (.finite n₁ c₁ e₁) (.finite n₂ c₂ e₂) =
      some (cmp ((signed n₁ c₁ : ℚ) * 10 ^ e₁) (signed n₂ c₂ * 10 ^ e₂)) := by
  have hsize (c : Nat) (e : Int) : (0 : ℚ) ≤ c * 10 ^ e := mul_nonneg c.cast_nonneg (ten_zpow_pos e).le
  have hpos {c : Nat} (hc : 0 < c) (e : Int) : (0 : ℚ) < c * 10 ^ e :=
    mul_pos (Nat.cast_pos.2 hc) (ten_zpow_pos e)
  rw [compare?, Option.some.injEq]
  cases h₁ : n₁ && c₁ != 0 with
  | false =>
    rw [signed_of_nonneg h₁, Int.cast_natCast]
    cases h₂ : n₂ && c₂ != 0 with
    | false =>
      rw [signed_of_nonneg h₂, Int.cast_natCast]
      exact compareMagnitude_eq c₁ e₁ c₂ e₂
    | true =>
      obtain ⟨hsigned, hc⟩ := signed_of_neg h₂
      rw [hsigned, Int.cast_neg, Int.cast_natCast, neg_mul]
      have hlt : -((c₂ : ℚ) * 10 ^ e₂) < c₁ * 10 ^ e₁ := (neg_neg_of_pos (hpos hc e₂)).trans_le (hsize c₁ e₁)
      exact ((cmp_eq_gt_iff _ _).2 hlt).symm
  | true =>
    obtain ⟨hsigned, hc⟩ := signed_of_neg h₁
    rw [hsigned, Int.cast_neg, Int.cast_natCast, neg_mul]
    cases h₂ : n₂ && c₂ != 0 with
    | false =>
      rw [signed_of_nonneg h₂, Int.cast_natCast]
      have hlt : -((c₁ : ℚ) * 10 ^ e₁) < c₂ * 10 ^ e₂ := (neg_neg_of_pos (hpos hc e₁)).trans_le (hsize c₂ e₂)
      exact ((cmp_eq_lt_iff _ _).2 hlt).symm
    | true =>
      rw [(signed_of_neg h₂).1, Int.cast_neg, Int.cast_natCast, neg_mul,
        ← cmp_sub_zero, neg_sub_neg, cmp_sub_zero]
      exact compareMagnitude_eq c₂ e₂ c₁ e₁

end Signs

/-- Two decimals compare as the places where they stand. -/
theorem compare?_eq {a b : Decimal} {x y : ExtendedRat} (ha : a.extended? = some x) (hb : b.extended? = some y) :
    compare? a b = some (cmp x y) := by
  cases a with
  | nan n s p m => cases ha
  | infinite n =>
    cases b with
    | nan m s p k => cases hb
    | infinite m =>
      cases n <;> cases m <;> obtain rfl := Option.some.inj ha <;> obtain rfl := Option.some.inj hb <;> rfl
    | finite m d f =>
      obtain rfl := Option.some.inj hb
      cases n with
      | true =>
        obtain rfl := Option.some.inj ha
        exact congrArg some ((cmp_eq_lt_iff _ _).2 (WithBot.bot_lt_coe _)).symm
      | false =>
        obtain rfl := Option.some.inj ha
        exact congrArg some ((cmp_eq_gt_iff _ _).2 (WithBot.coe_lt_coe.2 (WithTop.coe_lt_top _))).symm
  | finite n c e =>
    obtain rfl := Option.some.inj ha
    cases b with
    | nan m s p k => cases hb
    | infinite m =>
      cases m with
      | true =>
        obtain rfl := Option.some.inj hb
        exact congrArg some ((cmp_eq_gt_iff _ _).2 (WithBot.bot_lt_coe _)).symm
      | false =>
        obtain rfl := Option.some.inj hb
        exact congrArg some ((cmp_eq_lt_iff _ _).2 (WithBot.coe_lt_coe.2 (WithTop.coe_lt_top _))).symm
    | finite m d f =>
      obtain rfl := Option.some.inj hb
      rw [compare?_finite, WithBot.coe_strictMono.cmp_map_eq, WithTop.coe_strictMono.cmp_map_eq]

end Decimal

end Amend
