import Amend.Decimal.Basic

/-!
# The order of decimals

Decimals are compared by exact value. Numbers with leading digits at different powers of ten are told
apart by those powers alone, so that `1E+1000000` is compared without being written out; with equal
powers the exponents differ by no more than the number of digits.
-/

namespace Amend.Decimal

/-- Compares `c₁ * 10 ^ e₁` with `c₂ * 10 ^ e₂`. -/
def compareMagnitude (c₁ : Nat) (e₁ : Int) (c₂ : Nat) (e₂ : Int) : Ordering :=
  if c₁ = 0 ∨ c₂ = 0 then compare c₁ c₂
  else match compare (adjusted c₁ e₁) (adjusted c₂ e₂) with
    | .eq =>
      let e := min e₁ e₂
      compare (c₁ * 10 ^ (e₁ - e).toNat) (c₂ * 10 ^ (e₂ - e).toNat)
    | o => o

/-- Compares two decimals by value; there is no answer if one of them is not a number. -/
def compare? : Decimal → Decimal → Option Ordering
  | .nan .., _ => none
  | _, .nan .. => none
  | .infinite n, .infinite m => some (compare m.toNat n.toNat)
  | .infinite n, .finite .. => some (if n then .lt else .gt)
  | .finite .., .infinite m => some (if m then .gt else .lt)
  | .finite n₁ c₁ e₁, .finite n₂ c₂ e₂ => some <|
    match n₁ && c₁ != 0, n₂ && c₂ != 0 with
    | false, false => compareMagnitude c₁ e₁ c₂ e₂
    | true, true => compareMagnitude c₂ e₂ c₁ e₁
    | true, false => .lt
    | false, true => .gt

/-- What is not a number has no place in the order. -/
theorem compare?_nan (n s : Bool) (p mark : Nat) (d : Decimal) :
    compare? (.nan n s p mark) d = none := by
  cases d <;> rfl

end Amend.Decimal
