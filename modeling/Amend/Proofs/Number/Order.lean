import Amend.Number
import Amend.Proofs.Decimal.Order
import Mathlib.Tactic.Positivity

/-!
# Numbers on the number line

Numbers of all three kinds stand on one number line (`Number.extended?`): an integer as itself, a double as a
mantissa times a power of two, a decimal as a coefficient times a power of ten. The exact value through which numbers
are compared stands where the number does (`extended?_exact`), so a question for the order of two numbers is answered
as the number line has it (`holds?_eq_some`).

What is not a number stands nowhere. A question about it is an error if a decimal takes part, and otherwise it is
answered with no, whichever way it is put. So the answer that one number does not come before another one does not
yet mean that it comes behind it (`holds?_lt_eq_false_iff`, `holds?_gt_eq_false_iff`): the two may be unordered.

The shortest digits of a double stand near to it and in general not where it does, but they have its sign, and are
zero only for zero. So a number is negative exactly if the decimal that it is written as is (`zero_precedes_iff`).
-/

namespace Amend

/-! ## Doubles -/

namespace Double

/-- Where a double stands on the number line. -/
def extended? : Double → Option ExtendedRat
  | .finite n m q _ => some ((Decimal.signed n m * 2 ^ q : ℚ) : WithTop ℚ)
  | .infinite true => some ⊥
  | .infinite false => some ⊤
  | .nan _ => none

/-- A factor without a sign. -/
theorem signed_mul (n : Bool) (c d : Nat) : Decimal.signed n (c * d) = Decimal.signed n c * d := by
  cases n <;> simp [Decimal.signed]

/-- The exact decimal of a double stands where the double does. -/
theorem extended?_toExact (x : Double) : x.toExact.extended? = x.extended? := by
  cases x with
  | infinite n => cases n <;> rfl
  | nan mark => rfl
  | finite n m q canonical =>
    rw [toExact]
    split
    · rename_i hq
      have hpow : (2 : ℚ) ^ q.toNat = 2 ^ q := by rw [← zpow_natCast, Int.toNat_of_nonneg hq]
      rw [Decimal.extended?, extended?, signed_mul]
      simp [hpow]
    · rename_i hq
      -- a power of two is the power of ten at the same place, times what is missing of fives
      have hpow : (5 : ℚ) ^ (-q).toNat * 10 ^ q = 2 ^ q := by
        rw [show (10 : ℚ) = 5 * 2 by norm_num, mul_zpow, ← mul_assoc, ← zpow_natCast,
          Int.toNat_of_nonneg (by omega), ← zpow_add₀ (by norm_num), neg_add_cancel, zpow_zero, one_mul]
      rw [Decimal.extended?, extended?, signed_mul]
      simp [mul_assoc, hpow]

/-- No point of a grid that reads back as a double other than zero is zero. -/
theorem pos_of_onGrid? {m d : Nat} {q place : Int} (hm : m ≠ 0) (h : onGrid? m q place = some d) : 0 < d := by
  -- the interval of what reads back lies above zero
  have hlow : 0 < (if m = 2 ^ 52 ∧ -1074 < q then 4 * m - 1 else 4 * m - 2) *
      (2 ^ (q - 2).toNat * 10 ^ (-place).toNat) := by
    apply Nat.mul_pos
    · split <;> omega
    · positivity
  unfold onGrid? at h
  dsimp only at h
  generalize (if m = 2 ^ 52 ∧ -1074 < q then 4 * m - 1 else 4 * m - 2) *
    (2 ^ (q - 2).toNat * 10 ^ (-place).toNat) = low at h hlow
  have hbelow := div_le_divHalfEven (4 * m * (2 ^ (q - 2).toNat * 10 ^ (-place).toNat))
    (10 ^ place.toNat * 2 ^ (2 - q).toNat)
  generalize 4 * m * (2 ^ (q - 2).toNat * 10 ^ (-place).toNat) / (10 ^ place.toNat * 2 ^ (2 - q).toNat) = below
    at h hbelow
  by_cases hzero : below = 0
  · -- zero itself is not in the interval
    simp only [hzero, Nat.zero_mul, hlow.not_ge, hlow.not_gt, decide_false, Bool.false_and, ite_self] at h
    split at h
    · rename_i hinside _
      cases hinside
    · rename_i hinside _
      cases hinside
    · obtain rfl := Option.some.inj h
      omega
    · cases h
  · split at h
    · obtain rfl := Option.some.inj h
      omega
    · obtain rfl := Option.some.inj h
      omega
    · obtain rfl := Option.some.inj h
      omega
    · cases h

/-- The shortest digits of a double are zero only for zero. -/
theorem shortest_digits_eq_zero_iff {m : Nat} {q : Int} : (shortest m q).digits = 0 ↔ m = 0 := by
  rw [shortest]
  split
  · rename_i hzero
    exact iff_of_true rfl hzero
  · rename_i hm
    refine iff_of_false (Nat.pos_iff_ne_zero.1 ?_) hm
    cases hfound : (List.range 17).findSome? _ with
    | none => exact Nat.pos_of_ne_zero hm
    | some s =>
      obtain ⟨n, -, hn⟩ := List.exists_of_findSome?_eq_some hfound
      obtain ⟨d, hd, rfl⟩ := Option.map_eq_some_iff.1 hn
      have hpos := pos_of_onGrid? hm hd
      rw [Option.getD_some]
      split
      · -- what loses a zero at its end has two digits
        rename_i hlong
        have hten : ¬ d < 10 ^ 1 := by
          rw [← Decimal.digitCount_le_iff (by decide)]
          omega
        show 0 < d / 10
        omega
      · exact hpos

/-- The reading of a finite double has its sign, and is zero only for zero. -/
theorem exists_reading_finite (s : Bool) (m : Nat) (q : Int) :
    ∃ c e, (shortest m q).toDecimal s = .finite s c e ∧ (c = 0 ↔ m = 0) := by
  rw [Digits.toDecimal]
  split
  · refine ⟨_, _, rfl, ?_⟩
    rw [Nat.mul_eq_zero, or_iff_left (Nat.pow_pos (by decide)).ne', shortest_digits_eq_zero_iff]
  · exact ⟨_, _, rfl, shortest_digits_eq_zero_iff⟩

end Double

namespace Number

/-! ## Places -/

/-- Where a number stands on the number line. -/
def extended? : Number → Option ExtendedRat
  | .int n => some ((n : ℚ) : WithTop ℚ)
  | .double x => x.extended?
  | .decimal d => d.extended?

/-- The exact value of a number stands where the number does. -/
theorem extended?_exact (n : Number) : n.exact.extended? = n.extended? := by
  cases n with
  | int n =>
    rw [exact, Decimal.ofInt, Decimal.extended?, extended?, Decimal.signed_natAbs, zpow_zero, mul_one]
  | double x => exact x.extended?_toExact
  | decimal d => rfl

/-- Only what is not a number stands nowhere. -/
theorem extended?_eq_none_iff {n : Number} : n.extended? = none ↔ n.exact.isNaN = true := by
  rw [← extended?_exact, Decimal.extended?_eq_none_iff]

/-- A number stands somewhere. -/
theorem exists_extended? {n : Number} (h : n.exact.isNaN = false) : ∃ x, n.extended? = some x := by
  rw [← Option.ne_none_iff_exists', Ne, extended?_eq_none_iff, h]
  exact Bool.false_ne_true

/-! ## Relations -/

/-- What a relation says of two places. -/
def Relation.Holds (r : Relation) (x y : ExtendedRat) : Prop :=
  match r with
  | .lt => x < y
  | .le => x ≤ y
  | .gt => y < x
  | .ge => y ≤ x

/-- A relation admits the order of two places if it holds of them. -/
theorem Relation.admits_cmp_iff (r : Relation) (x y : ExtendedRat) : r.admits (cmp x y) = true ↔ r.Holds x y := by
  cases r with
  | lt => exact beq_iff_eq.trans (cmp_eq_lt_iff x y)
  | le => exact bne_iff_ne.trans ((not_congr (cmp_eq_gt_iff x y)).trans not_lt)
  | gt => exact beq_iff_eq.trans (cmp_eq_gt_iff x y)
  | ge => exact bne_iff_ne.trans ((not_congr (cmp_eq_lt_iff x y)).trans not_lt)

variable {a b : Number} {x y : ExtendedRat}

/-- A question for the order of two numbers is answered by the places where they stand. -/
theorem holds?_eq_some (r : Relation) (ha : a.extended? = some x) (hb : b.extended? = some y) :
    a.holds? r b = some (r.admits (cmp x y)) := by
  rw [← extended?_exact] at ha hb
  rw [holds?, Decimal.compare?_eq ha hb]

/-- Nothing can be said about the order of two numbers, but no decimal takes part, so that the question is no
error. -/
def Unordered (a b : Number) : Prop :=
  (a.exact.isNaN = true ∨ b.exact.isNaN = true) ∧ a.isDecimal = false ∧ b.isDecimal = false

/-- What is not a number has no order with anything. -/
theorem compare?_eq_none (h : a.exact.isNaN = true ∨ b.exact.isNaN = true) :
    a.exact.compare? b.exact = none := by
  generalize a.exact = d at h ⊢
  generalize b.exact = e at h ⊢
  cases d with
  | nan n s p m => exact Decimal.compare?_nan n s p m e
  | _ =>
    cases e with
    | nan n s p m => rfl
    | _ => simp [Decimal.isNaN] at h

/-- The answer is no if the numbers stand otherwise, or if they are unordered. -/
theorem holds?_eq_false_iff (r : Relation) : a.holds? r b = some false ↔
    (∃ x y, a.extended? = some x ∧ b.extended? = some y ∧ ¬ r.Holds x y) ∨ a.Unordered b := by
  by_cases h : a.exact.isNaN = true ∨ b.exact.isNaN = true
  · have hplaces : ¬ ∃ x y, a.extended? = some x ∧ b.extended? = some y ∧ ¬ r.Holds x y := by
      rintro ⟨x, y, ha, hb, -⟩
      rw [← extended?_eq_none_iff, ← extended?_eq_none_iff, ha, hb] at h
      simp at h
    rw [holds?, compare?_eq_none h, or_iff_right hplaces, Unordered, and_iff_right h]
    cases a.isDecimal <;> cases b.isDecimal <;> simp
  · obtain ⟨ha, hb⟩ : a.exact.isNaN = false ∧ b.exact.isNaN = false := by simpa using h
    obtain ⟨x, hx⟩ := exists_extended? ha
    obtain ⟨y, hy⟩ := exists_extended? hb
    rw [holds?_eq_some r hx hy, or_iff_left fun hunordered => h hunordered.1, Option.some.injEq,
      ← Bool.not_eq_true, r.admits_cmp_iff]
    simp [hx, hy]

/-! ## Order -/

/-- A number comes before another one, or stands where it does if that is included. -/
def Precedes (inclusive : Bool) (a b : Number) : Prop :=
  ∃ x y, a.extended? = some x ∧ b.extended? = some y ∧ if inclusive then x ≤ y else x < y

/-- Of two numbers the one does not come behind the other, as far as anything can be said. -/
theorem holds?_gt_eq_false_iff (inclusive : Bool) : a.holds? (if inclusive then .gt else .ge) b = some false ↔
    Precedes inclusive a b ∨ a.Unordered b := by
  rw [holds?_eq_false_iff]
  cases inclusive with
  | true => simp [Precedes, Relation.Holds]
  | false => simp [Precedes, Relation.Holds]

/-- Of two numbers the one does not come before the other, as far as anything can be said. -/
theorem holds?_lt_eq_false_iff (inclusive : Bool) : a.holds? (if inclusive then .lt else .le) b = some false ↔
    Precedes inclusive b a ∨ a.Unordered b := by
  have hswap (P : ExtendedRat → ExtendedRat → Prop) :
      (∃ x y, a.extended? = some x ∧ b.extended? = some y ∧ P y x) ↔
        ∃ y x, b.extended? = some y ∧ a.extended? = some x ∧ P y x :=
    ⟨fun ⟨x, y, hx, hy, h⟩ => ⟨y, x, hy, hx, h⟩, fun ⟨y, x, hy, hx, h⟩ => ⟨x, y, hx, hy, h⟩⟩
  rw [holds?_eq_false_iff]
  cases inclusive with
  | true => simpa [Precedes, Relation.Holds] using or_congr_left (hswap fun y x => y ≤ x)
  | false => simpa [Precedes, Relation.Holds] using or_congr_left (hswap fun y x => y < x)

/-! ## Signs -/

/-- A number that is written as a finite decimal is not negative if that decimal is not. -/
theorem zero_precedes_iff {n : Number} {x : ℚ} (h : n.reading.value? = some x) :
    Precedes true (.int 0) n ↔ 0 ≤ x := by
  have hplace {y : ℚ} (hy : n.extended? = some ((y : WithTop ℚ) : ExtendedRat)) :
      Precedes true (.int 0) n ↔ 0 ≤ y := by
    have hzero : (Number.int 0).extended? = some (((0 : ℚ) : WithTop ℚ) : ExtendedRat) := by
      rw [extended?, Int.cast_zero]
    simp [Precedes, hzero, hy]
  cases n with
  | int k =>
    refine hplace ?_
    rw [← extended?_exact]
    exact Decimal.extended?_of_value? h
  | decimal d => exact hplace (Decimal.extended?_of_value? h)
  | double y =>
    cases y with
    | infinite s => cases h
    | nan mark => cases h
    | finite s m q canonical =>
      rw [hplace rfl]
      obtain ⟨c, e, hreading, hzero⟩ := Double.exists_reading_finite s m q
      rw [reading, Double.reading, hreading] at h
      obtain rfl := Option.some.inj h
      rw [Decimal.signed_mul_zpow_nonneg_iff (by norm_num), Decimal.signed_mul_zpow_nonneg_iff (by norm_num), hzero]

end Number

end Amend
