import Amend.Proofs.Check.AmountText
import Amend.Proofs.Check.Range
import Amend.Proofs.Decimal.Rounding
import Amend.Proofs.Value.Capacity

/-!
# The check for amounts of money

The check takes the size of a number, rounded to twenty-eight digits, and asks of its text whether it is an amount. A
number that has no more than twenty-eight digits is not changed by rounding, and the check is exact for it
(`run_currency_iff`). A longer number is judged by the exponent it is rounded to, and this only depends on its size:
all of them from `10 ^ 25 - 0.0005` to just below `10 ^ 28 - 0.5` pass, whatever is behind their second decimal place
(`run_currency_wholeCents_or`).
-/

namespace Amend

namespace Check

open Decimal

/-! ## Passing -/

section Amounts

variable {n : Number} {negative allowNegative : Bool} {c : Nat} {e : Int}

/-- A number is not found to be less than zero if it comes behind zero or stands there. -/
theorem compares_lt_zero_eq_ok_iff (h : n.storable = true) :
    compares .lt n (.int 0) = .ok false ↔ Number.Precedes true (.int 0) n := by
  have hordered : ¬ n.Unordered (.int 0) := Number.not_unordered (Number.isNaN_exact_of_storable h) rfl
  exact (compares_eq_ok_iff rfl).trans ((Number.holds?_lt_eq_false_iff true).trans (or_iff_left hordered))

/-- A number passes that has the sign that is asked for, if the text of its rounded size is an amount. -/
theorem runCurrency_eq_ok_iff (h : n.storable = true) (hreading : n.reading = .finite negative c e) :
    runCurrency (.number n) allowNegative = .ok () ↔
      (allowNegative = true ∨ Number.Precedes true (.int 0) n) ∧
        isAmount (amountContext.fit (.finite false c e)).1.chars = true := by
  have hamount : (orFault (amountOf n) >>= fun d =>
      require (isAmount d.chars) (.noMatch (.number (.decimal d)) amountPattern)) = .ok () ↔
        isAmount (amountContext.fit (.finite false c e)).1.chars = true := by
    rw [amountOf_eq h, hreading]
    exact require_eq_ok_iff
  rw [runCurrency]
  cases allowNegative with
  | true => exact hamount.trans (and_iff_right (.inl rfl)).symm
  | false =>
    refine if_orFault_eq_ok_iff.trans ?_
    rw [compares_lt_zero_eq_ok_iff h, hamount, or_iff_right Bool.false_ne_true]

/-- The reading of a number that can be stored fits into the store. -/
theorem fitsStore_of_reading_eq {d : Decimal} (h : n.storable = true) (hreading : n.reading = d) : d.FitsStore := by
  rw [← holds_storeContext_iff, ← hreading]
  exact h

/-- A size that is not rounded is an amount if it is written with at most two decimal places. -/
theorem isAmount_fit_of_short (h : n.storable = true) (hreading : n.reading = .finite negative c e)
    (hshort : digitCount c ≤ 28) :
    isAmount (amountContext.fit (.finite false c e)).1.chars = true ↔ -2 ≤ e ∧ e ≤ 0 := by
  have hroom : amountContext.HasRoom c e := by
    rw [Context.HasRoom]
    simp only [amountContext, Context.tiny, adjusted]
    rcases fitsStore_of_reading_eq h hreading with ⟨hne, -, hleast, hmost⟩ | ⟨rfl, hleast, hmost⟩
    · rw [if_neg hne]
      omega
    · rw [if_pos rfl]
      omega
  rw [(Context.fit_of_hasRoom hroom).1, isAmount_chars_iff]

/-- A size that is rounded is an amount in the decades whose rounded digits end in the first or second decimal place,
or before the point. -/
theorem isAmount_fit_of_long (h : n.storable = true) (hreading : n.reading = .finite negative c e)
    (hlong : 28 < digitCount c) :
    isAmount (amountContext.fit (.finite false c e)).1.chars = true ↔
      (10 : ℚ) ^ 25 - 1 / 2000 ≤ c * 10 ^ e ∧ (c : ℚ) * 10 ^ e < 10 ^ 28 - 1 / 2 := by
  have hne := Context.ne_zero_of_lt_digitCount (by decide) hlong
  obtain ⟨-, -, hleast, hmost⟩ := (fitsStore_of_reading_eq h hreading).resolve_right fun hzero => hne hzero.1
  have htiny : amountContext.tiny ≤ e + digitCount c - 28 := by
    simp only [amountContext, Context.tiny]
    omega
  have htop : e + digitCount c - 28 < amountContext.top := by
    simp only [amountContext, Context.top]
    omega
  obtain ⟨kept, hkept⟩ := Context.exists_fst_fit false (by decide) hlong htiny htop
  have hlow : -3 < amountContext.roundedExponent c e (digitCount c - 28) ↔ ((10 : ℚ) ^ 28 - 1 / 2) * 10 ^ (-3 : ℤ) ≤
      c * 10 ^ e := Context.lt_roundedExponent_iff (by decide) hlong (-3)
  have hhigh : 0 < amountContext.roundedExponent c e (digitCount c - 28) ↔ ((10 : ℚ) ^ 28 - 1 / 2) * 10 ^ (0 : ℤ) ≤
      c * 10 ^ e := Context.lt_roundedExponent_iff (by decide) hlong 0
  rw [show ((10 : ℚ) ^ 28 - 1 / 2) * 10 ^ (-3 : ℤ) = 10 ^ 25 - 1 / 2000 by norm_num] at hlow
  rw [zpow_zero, mul_one] at hhigh
  rw [hkept, isAmount_chars_iff]
  exact and_congr (Int.add_one_le_iff.trans hlow) (not_lt.symm.trans ((not_congr hhigh).trans not_le))

end Amounts

/-! ## Exactness -/

section Exact

variable {n : Number} {v : Value} {negative : Bool} {c : Nat} {e : Int} {x : ℚ}

/-- A number that can be stored is a value. -/
theorem exists_ofPayload_number (h : n.storable = true) : ∃ v, Value.ofPayload (.number n) = .ok v :=
  (Value.exists_ofPayload_iff _).2 (Payload.holdable_number_iff.2 h)

/-- A number that is a value can be stored, and its reading is the decimal that it is written as. -/
theorem storable_and_reading_eq {d : Decimal} (hv : Value.ofPayload (.number n) = .ok v)
    (hliteral : n.literal? = some d) : n.storable = true ∧ n.reading = d := by
  have hstorable := Payload.holdable_number_iff.1 ((Value.exists_ofPayload_iff _).1 ⟨v, hv⟩)
  rw [Number.literal?_eq (Number.isFinite_of_storable hstorable)] at hliteral
  exact ⟨hstorable, Option.some.inj hliteral⟩

/-- A number of at most twenty-eight digits passes as an amount if it is written with none, one or two decimal places
and no exponent, and has a sign that is allowed. Otherwise it is refused, and no such number ends the check in a
fault. -/
theorem run_currency_iff (hv : Value.ofPayload (.number n) = .ok v)
    (hliteral : n.literal? = some (.finite negative c e)) (hshort : digitCount c ≤ 28)
    (allowNegative : Option Payload) :
    ((Check.currency allowNegative).run (.number n) = .ok () ↔
        (e = 0 ∨ e = -1 ∨ e = -2) ∧ (flagSet false allowNegative = true ∨ Number.Precedes true (.int 0) n)) ∧
      ((Check.currency allowNegative).run (.number n) = .ok () ∨
        ∃ violation, (Check.currency allowNegative).run (.number n) = .error (.refused violation)) := by
  obtain ⟨hstorable, hreading⟩ := storable_and_reading_eq hv hliteral
  refine ⟨?_, run_eq_ok_or_refused (v := .number ⟨n, hstorable⟩) rfl rfl⟩
  have hplaces : -2 ≤ e ∧ e ≤ 0 ↔ e = 0 ∨ e = -1 ∨ e = -2 := by omega
  refine (runCurrency_eq_ok_iff hstorable hreading).trans ?_
  rw [isAmount_fit_of_short hstorable hreading hshort, hplaces, and_comm]

/-- The double `-0.0` is not less than zero, and passes without negative amounts being allowed. -/
theorem run_currency_iff_negativeZero :
    (Check.currency none).run (.number (.double (.zero true))) = .ok () := by
  obtain ⟨v, hv⟩ : ∃ v, Value.ofPayload (.number (.double (.zero true))) = .ok v :=
    exists_ofPayload_number (by decide +kernel)
  have hliteral : (Number.double (.zero true)).literal? = some (.finite true 0 (-1)) := by decide +kernel
  have hsign : Number.Precedes true (.int 0) (.double (.zero true)) :=
    (Number.zero_precedes_iff (x := 0) (by decide +kernel)).2 (le_refl 0)
  exact (run_currency_iff hv hliteral (by decide) none).1.2 ⟨.inr (.inl rfl), .inr hsign⟩

/-- A number of cents that is whole. -/
def IsWholeCents (x : ℚ) : Prop :=
  ∃ k : ℤ, x * 100 = k

/-- The digits behind the second decimal place are rounded away before the text of a number is looked at: there are
more than twenty-eight digits, and after rounding none, one or two of them are decimal places. -/
def LosesFractions (c : Nat) (x : ℚ) : Prop :=
  28 < digitCount c ∧ 10 ^ 25 - 1 / 2000 ≤ |x| ∧ |x| < 10 ^ 28 - 1 / 2

/-- A number with at most two decimal places is a whole number of cents. -/
theorem isWholeCents_of_le (hplaces : -2 ≤ e) (s : Int) : IsWholeCents (s * 10 ^ e) := by
  refine ⟨s * 10 ^ (e + 2).toNat, ?_⟩
  rw [Int.cast_mul, Int.cast_pow, mul_assoc, show (100 : ℚ) = 10 ^ (2 : ℤ) by norm_num, ← zpow_add₀ (by norm_num),
    ← zpow_natCast, Int.toNat_of_nonneg (by omega)]
  norm_num

/-- What passes as an amount has a sign that is allowed, and is a whole number of cents or loses its fractions of a
cent; and what loses them passes if its sign is allowed, whatever they were. -/
theorem run_currency_wholeCents_or (hv : Value.ofPayload (.number n) = .ok v)
    (hliteral : n.literal? = some (.finite negative c e))
    (hx : (Decimal.finite negative c e).value? = some x) (allowNegative : Option Payload) :
    ((Check.currency allowNegative).run (.number n) = .ok () →
        (flagSet false allowNegative = true ∨ 0 ≤ x) ∧ (IsWholeCents x ∨ LosesFractions c x)) ∧
      (LosesFractions c x →
        ((Check.currency allowNegative).run (.number n) = .ok () ↔ flagSet false allowNegative = true ∨ 0 ≤ x)) := by
  obtain ⟨hstorable, hreading⟩ := storable_and_reading_eq hv hliteral
  have hsign : Number.Precedes true (.int 0) n ↔ 0 ≤ x := Number.zero_precedes_iff (by rw [hreading, hx])
  have hpasses : (Check.currency allowNegative).run (.number n) = .ok () ↔
      (flagSet false allowNegative = true ∨ 0 ≤ x) ∧
        isAmount (amountContext.fit (.finite false c e)).1.chars = true := by
    rw [← hsign]
    exact runCurrency_eq_ok_iff hstorable hreading
  obtain rfl : _ = x := Option.some.inj hx
  have hsize : |(signed negative c : ℚ) * 10 ^ e| = c * 10 ^ e := by
    rw [abs_mul, abs_of_pos (ten_zpow_pos e), ← Int.cast_abs, abs_signed, Int.cast_natCast]
  rw [hpasses, LosesFractions, hsize]
  by_cases hlong : 28 < digitCount c
  · -- the size alone decides
    rw [isAmount_fit_of_long hstorable hreading hlong]
    exact ⟨fun h => ⟨h.1, .inr ⟨hlong, h.2⟩⟩, fun h => and_iff_left h.2⟩
  · -- nothing is rounded, and there are at most two decimal places
    rw [isAmount_fit_of_short hstorable hreading (Nat.not_lt.1 hlong)]
    exact ⟨fun h => ⟨h.1, .inl (isWholeCents_of_le h.2.1 _)⟩, fun h => absurd h.1 hlong⟩

/-- The amount `-10.25` passes if negative amounts are allowed, and is a whole number of cents. -/
theorem run_currency_wholeCents_quarter :
    (Check.currency (some (.boolean true))).run (.number (.decimal (.finite true 1025 (-2)))) = .ok () ∧
      IsWholeCents (-41 / 4) := by
  obtain ⟨v, hv⟩ : ∃ v, Value.ofPayload (.number (.decimal (.finite true 1025 (-2)))) = .ok v :=
    exists_ofPayload_number (by decide +kernel)
  have hpasses : (Check.currency (some (.boolean true))).run (.number (.decimal (.finite true 1025 (-2)))) = .ok () :=
    toOption_eq_some_iff.1 (by decide +kernel)
  have hx : (Decimal.finite true 1025 (-2)).value? = some (-41 / 4) := by
    norm_num [Decimal.value?, signed]
  have hshort : ¬ 28 < digitCount 1025 := by decide
  exact ⟨hpasses, ((run_currency_wholeCents_or hv rfl hx _).1 hpasses).2.resolve_right fun hloses => hshort hloses.1⟩

/-- A number of twenty-nine digits is a value and passes as an amount, but it has nine tenths of a cent. -/
theorem not_isWholeCents_long :
    (∃ v, Value.ofPayload (.number (.decimal (.finite false 12345678901234567890123456789 (-3)))) = .ok v) ∧
      (Check.currency none).run (.number (.decimal (.finite false 12345678901234567890123456789 (-3)))) = .ok () ∧
      ∃ x, (Decimal.finite false 12345678901234567890123456789 (-3)).value? = some x ∧ ¬ IsWholeCents x := by
  refine ⟨exists_ofPayload_number (by decide +kernel), toOption_eq_some_iff.1 (by decide +kernel), _, rfl, ?_⟩
  rintro ⟨k, hk⟩
  have htenths : (k : ℚ) * 10 = (12345678901234567890123456789 : ℤ) := by
    rw [← hk]
    norm_num [signed]
  have hwhole : k * 10 = 12345678901234567890123456789 := by exact_mod_cast htenths
  omega

end Exact

end Check

end Amend
