import Amend.Proofs.Decimal.Order
import Amend.Proofs.Number
import Mathlib.Tactic.Linarith
import Mathlib.Tactic.Ring

/-!
# The exponents of rounded decimals

A decimal with more digits than a context has room for is rounded, and the exponent of what it is rounded to says how
many decimal places are left. This exponent depends on the size of the decimal alone: it lies above `q` exactly if
the size is at least `(10 ^ p - 1/2) * 10 ^ q`, where `p` is the number of digits of the context
(`Context.lt_roundedExponent_iff`). The half belongs to the carry: from half a unit below it on, a power of ten is
reached by rounding, and it is written with an exponent higher by one.
-/

namespace Amend

/-! ## Rounding up to an even number -/

/-- Rounding comes to an even number from half a unit below it on. -/
theorem le_divHalfEven_iff {n d m : Nat} (hd : 0 < d) (hm : m % 2 = 0) :
    m ≤ divHalfEven n d ↔ 2 * (m * d) ≤ 2 * n + d := by
  have hdiv := Nat.div_add_mod n d
  have hmod := Nat.mod_lt n hd
  rcases Nat.lt_trichotomy m (n / d + 1) with hlt | heq | hgt
  · -- the number lies at or below the quotient, so that both sides hold
    have hmul : m * d ≤ d * (n / d) := by
      rw [Nat.mul_comm]
      exact Nat.mul_le_mul_left d (by omega)
    have hle := div_le_divHalfEven n d
    exact iff_of_true (by omega) (by omega)
  · -- the quotient is odd, so half a unit is rounded up
    have hmul : m * d = d * (n / d) + d := by
      rw [heq, Nat.mul_comm, Nat.mul_add_one]
    simp only [divHalfEven]
    split
    · omega
    · split
      · omega
      · split
        · omega
        · omega
  · -- the number lies above what rounding can come to, so that neither side holds
    have hmul : d * (n / d) + d * 2 ≤ m * d := by
      rw [Nat.mul_comm m, ← Nat.mul_add]
      exact Nat.mul_le_mul_left d (by omega)
    have hle : divHalfEven n d ≤ n / d + 1 := by
      simp only [divHalfEven]
      split
      · omega
      · split
        · omega
        · split <;> omega
    exact iff_of_false (by omega) (by omega)

namespace Decimal

/-! ## Decades -/

/-- Of two numbers with leading digits in one decade, the exponents are compared first. -/
theorem mul_zpow_le_mul_zpow_iff {m b t : ℚ} {q p : Int} (hm : 0 < m) (hb : m ≤ b) (hb' : b < m * 10) (ht : m ≤ t)
    (ht' : t < m * 10) : b * 10 ^ q ≤ t * 10 ^ p ↔ q < p ∨ q = p ∧ b ≤ t := by
  have hdecade {x y : ℚ} {i j : Int} (hx : x < m * 10) (hy : m ≤ y) (hij : i < j) : x * 10 ^ i < y * 10 ^ j :=
    calc x * 10 ^ i < m * 10 * 10 ^ i := mul_lt_mul_of_pos_right hx (ten_zpow_pos i)
      _ = m * 10 ^ (i + 1) := by rw [mul_assoc, zpow_add_one₀ (by norm_num), mul_comm (10 : ℚ)]
      _ ≤ m * 10 ^ j := mul_le_mul_of_nonneg_left (zpow_le_zpow_right₀ (by norm_num) (by omega)) hm.le
      _ ≤ y * 10 ^ j := mul_le_mul_of_nonneg_right hy (ten_zpow_pos j).le
  rcases lt_trichotomy q p with hlt | rfl | hgt
  · exact iff_of_true (hdecade hb' ht hlt).le (.inl hlt)
  · rw [mul_le_mul_iff_left₀ (ten_zpow_pos q)]
    simp
  · refine iff_of_false (hdecade ht' hb hgt).not_ge ?_
    rintro (hlt | ⟨rfl, -⟩)
    · omega
    · omega

namespace Context

variable {ctx : Context} {c : Nat} {e : Int}

/-- The exponent of a coefficient that has lost `shift` digits to a context, and one more if a carry has made it too
long. -/
def roundedExponent (ctx : Context) (c : Nat) (e : Int) (shift : Nat) : Int :=
  if 10 ^ ctx.precision ≤ divHalfEven c (10 ^ shift) then e + shift + 1 else e + shift

/-- Zero has one digit. -/
theorem ne_zero_of_lt_digitCount {p : Nat} (hp : 0 < p) (h : p < digitCount c) : c ≠ 0 := by
  rintro rfl
  have hone : digitCount 0 = 1 := by decide
  omega

/-- A decimal with too many digits is rounded to a decimal with this exponent. -/
theorem exists_fst_fit (negative : Bool) (hprecision : 0 < ctx.precision) (hdigits : ctx.precision < digitCount c)
    (hlow : ctx.tiny ≤ e + digitCount c - ctx.precision) (hhigh : e + digitCount c - ctx.precision < ctx.top) :
    ∃ kept, (ctx.fit (.finite negative c e)).1 =
      .finite negative kept (ctx.roundedExponent c e (digitCount c - ctx.precision)) := by
  have hc := ne_zero_of_lt_digitCount hprecision hdigits
  have hleast : max ((digitCount c : Int) + e - ctx.precision) ctx.tiny =
      e + (digitCount c - ctx.precision : Nat) := by omega
  have hshift : (e + (digitCount c - ctx.precision : Nat) - e).toNat = digitCount c - ctx.precision := by omega
  have hcarried (kept : Nat) : ctx.precision < digitCount kept ↔ 10 ^ ctx.precision ≤ kept := by
    rw [← Nat.not_le, digitCount_le_iff hprecision, Nat.not_lt]
  rw [fit, if_neg hc, fitNonzero, if_neg (by omega), if_pos (by omega), hleast, dropDigits, hshift, shortened_eq]
  simp only [hcarried]
  rw [← roundedExponent, if_neg]
  · exact ⟨_, rfl⟩
  · rw [roundedExponent]
    split <;> omega

/-- A long coefficient is carried to a power of ten from half a unit below it on. -/
theorem le_divHalfEven_pow_iff {p shift : Nat} (hp : 0 < p) (c : Nat) :
    10 ^ p ≤ divHalfEven c (10 ^ shift) ↔ (10 : ℚ) ^ p - 1 / 2 ≤ c / 10 ^ shift := by
  have heven : 10 ^ p % 2 = 0 := by
    obtain ⟨k, rfl⟩ : ∃ k, p = k + 1 := ⟨p - 1, by omega⟩
    rw [Nat.pow_succ]
    omega
  have hunit : (0 : ℚ) < 10 ^ shift := by positivity
  have hhalf : ((10 : ℚ) ^ p - 1 / 2) * 10 ^ shift ≤ c ↔ 2 * ((10 : ℚ) ^ p * 10 ^ shift) ≤ 2 * c + 10 ^ shift := by
    constructor <;> intro h <;> linarith
  rw [le_divHalfEven_iff (Nat.pow_pos (by decide)) heven, le_div_iff₀ hunit, hhalf]
  norm_cast

/-- The exponent of what a long coefficient is rounded to lies above `q` from half a unit below a power of ten on. -/
theorem lt_roundedExponent_iff (hprecision : 0 < ctx.precision) (hdigits : ctx.precision < digitCount c) (q : Int) :
    q < ctx.roundedExponent c e (digitCount c - ctx.precision) ↔
      ((10 : ℚ) ^ ctx.precision - 1 / 2) * 10 ^ q ≤ c * 10 ^ e := by
  obtain ⟨p, hp⟩ : ∃ p, ctx.precision = p + 1 := ⟨ctx.precision - 1, by omega⟩
  obtain ⟨shift, hshift⟩ : ∃ shift, digitCount c = ctx.precision + shift := ⟨digitCount c - ctx.precision, by omega⟩
  obtain ⟨hlow, hhigh⟩ := pow_digitCount_bounds (ne_zero_of_lt_digitCount hprecision hdigits)
  have hunit : (0 : ℚ) < 10 ^ shift := by positivity
  -- in units of the last digit that is kept, the coefficient has its leading digit in the last place there is room for
  have hleast : (10 : ℚ) ^ p ≤ c / 10 ^ shift := by
    rw [le_div_iff₀ hunit, ← pow_add]
    rw [show digitCount c - 1 = p + shift by omega] at hlow
    exact_mod_cast hlow
  have hmost : (c : ℚ) / 10 ^ shift < 10 ^ p * 10 := by
    rw [div_lt_iff₀ hunit, ← pow_succ, ← pow_add]
    rw [show digitCount c = p + 1 + shift by omega] at hhigh
    exact_mod_cast hhigh
  have hone : (1 : ℚ) ≤ 10 ^ p := one_le_pow₀ (by norm_num)
  have hbound : (10 : ℚ) ^ ctx.precision = 10 ^ p * 10 := by rw [hp, pow_succ]
  have hvalue : (c : ℚ) * 10 ^ e = c / 10 ^ shift * 10 ^ (e + shift) := by
    rw [zpow_add₀ (by norm_num), zpow_natCast, div_mul_eq_mul_div, mul_comm ((10 : ℚ) ^ e), ← mul_assoc,
      mul_div_right_comm, mul_div_assoc, div_self hunit.ne', mul_one]
  rw [hvalue, mul_zpow_le_mul_zpow_iff (m := 10 ^ p) (by linarith) (by linarith) (by linarith) hleast hmost,
    ← le_divHalfEven_pow_iff hprecision, roundedExponent, show digitCount c - ctx.precision = shift by omega]
  split
  · rename_i hcarry
    simp only [hcarry, and_true]
    omega
  · rename_i hcarry
    simp [hcarry]

end Context

end Decimal

end Amend
