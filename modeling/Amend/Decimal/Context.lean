import Amend.Decimal.Basic
import Amend.HalfEven

/-!
# Decimal contexts

A context says how many digits a decimal may have and how large its exponent may be. Bringing a
decimal into a context rounds it where it must, and reports what had to be done to it. A store that
keeps numbers exactly refuses a decimal for which anything had to be done.
-/

namespace Amend.Decimal

/-- What can happen to a decimal that is brought into a context. -/
inductive Signal where
  /-- An exponent was moved without a change of value. -/
  | clamped
  /-- Digits were dropped. -/
  | rounded
  /-- Digits other than zero were dropped. -/
  | inexact
  /-- The leading digit stands below the least exponent. -/
  | subnormal
  /-- The result is subnormal and inexact. -/
  | underflow
  /-- The leading digit stands above the greatest exponent. -/
  | overflow
  /-- A signalling number was used. -/
  | invalid
  deriving DecidableEq, Repr

/-- The digits and exponents that a context has room for: the leading digit of a normal number stands
between `minExponent` and `maxExponent`. -/
structure Context where
  precision : Nat
  minExponent : Int
  maxExponent : Int

namespace Context

/-- The exponent of the last digit of the smallest number. -/
def tiny (ctx : Context) : Int :=
  ctx.minExponent - (ctx.precision - 1)

/-- The exponent of the last digit of the largest number. -/
def top (ctx : Context) : Int :=
  ctx.maxExponent - (ctx.precision - 1)

/-- A zero keeps its value; only its exponent may have to move. -/
def fitZero (ctx : Context) (negative : Bool) (exponent : Int) : Decimal × List Signal :=
  let fitted := min (max exponent ctx.tiny) ctx.maxExponent
  (.finite negative 0 fitted, if fitted = exponent then [] else [.clamped])

/-- A coefficient less its last `shift` digits, the last digit kept being rounded half to even. A
coefficient of fewer digits comes to nothing, and the power of ten is not written out. -/
def shortened (coefficient shift : Nat) : Nat :=
  if digitCount coefficient < shift then 0 else divHalfEven coefficient (10 ^ shift)

/-- All of the last `shift` digits of a coefficient that is not zero are zero. -/
def endsInZeros (coefficient shift : Nat) : Bool :=
  !(digitCount coefficient < shift) && coefficient % 10 ^ shift == 0

/-- Leaving out the power of ten makes no difference. -/
theorem shortened_eq (coefficient shift : Nat) :
    shortened coefficient shift = divHalfEven coefficient (10 ^ shift) := by
  unfold shortened
  split
  · rename_i h
    obtain ⟨k, rfl⟩ : ∃ k, shift = k + 1 := ⟨shift - 1, by omega⟩
    have hk : 0 < k := Nat.lt_of_lt_of_le (digitCount_pos coefficient) (Nat.lt_succ_iff.1 h)
    -- the coefficient is below a tenth of the unit
    have hlt : coefficient < 10 ^ k := (digitCount_le_iff hk).1 (Nat.lt_succ_iff.1 h)
    rw [Nat.pow_succ]
    simp only [divHalfEven]
    rw [Nat.div_eq_of_lt (by omega), Nat.mod_eq_of_lt (by omega), if_pos (by omega)]
  · rfl

/-- A nonzero coefficient brought to the exponent `least`, which lies above its own. A carry out of the
leading digit moves the exponent. -/
def dropDigits (ctx : Context) (negative : Bool) (coefficient : Nat) (exponent least : Int)
    (subnormal : Bool) : Decimal × List Signal :=
  let shift := (least - exponent).toNat
  let kept := shortened coefficient shift
  let changed := !endsInZeros coefficient shift
  -- a carry out of the leading digit leaves a power of ten
  let carried := ctx.precision < digitCount kept
  let result : Nat := if carried then kept / 10 else kept
  let place : Int := if carried then least + 1 else least
  if ctx.top < place then (.infinite negative, [.overflow, .inexact, .rounded])
  else
    (.finite negative result place,
      (if changed ∧ subnormal then [.underflow] else []) ++ (if subnormal then [.subnormal] else []) ++
        (if changed then [.inexact] else []) ++ [.rounded] ++ (if result = 0 then [.clamped] else []))

/-- A nonzero finite decimal brought into a context. -/
def fitNonzero (ctx : Context) (negative : Bool) (coefficient : Nat) (exponent : Int) :
    Decimal × List Signal :=
  let last : Int := digitCount coefficient + exponent - ctx.precision
  let subnormal := last < ctx.tiny
  let least := max last ctx.tiny
  if ctx.top < last then (.infinite negative, [.overflow, .inexact, .rounded])
  else if exponent < least then ctx.dropDigits negative coefficient exponent least subnormal
  else (.finite negative coefficient exponent, if subnormal then [.subnormal] else [])

/-- A decimal brought into a context, and what had to be done to it. -/
def fit (ctx : Context) : Decimal → Decimal × List Signal
  | .finite n c e => if c = 0 then ctx.fitZero n e else ctx.fitNonzero n c e
  | .infinite n => (.infinite n, [])
  | .nan n s payload mark =>
    (.nan n false (payload % 10 ^ ctx.precision) mark, if s then [.invalid] else [])

/-- The absolute value in a context. What is not a number keeps its sign. -/
def abs (ctx : Context) : Decimal → Decimal × List Signal
  | .finite _ c e => ctx.fit (.finite false c e)
  | .infinite _ => ctx.fit (.infinite false)
  | d => ctx.fit d

/-- The context holds a decimal as it is: nothing has to be done to it, but it may be subnormal. -/
def holds (ctx : Context) (d : Decimal) : Bool :=
  d.isFinite && (ctx.fit d).2.all (· == .subnormal)

end Context

/-- The context of the store: thirty-eight digits, and a leading digit between `10 ^ -128` and
`10 ^ 126`. -/
def storeContext : Context := ⟨38, -128, 126⟩

/-- The context in which amounts of money are taken: twenty-eight digits, and a range of exponents
that no sensible amount leaves. -/
def amountContext : Context := ⟨28, -999999, 999999⟩

end Amend.Decimal
