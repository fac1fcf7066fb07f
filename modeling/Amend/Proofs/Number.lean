import Amend.Proofs.Decimal.Text
import Amend.Value

/-!
# Numbers that the store can hold

What the store can hold is finite, so it stands in the order of numbers, and its leading digit is far below
where amounts end. Whoever asks for the order of such a number with another number, or for its size as an
amount, gets an answer.

A context holds a finite decimal as it is if it has room for it (`Context.HasRoom`), which bounds the digits, the
exponent and the place of the leading digit.
-/

namespace Amend

namespace Decimal

/-! ## Order -/

/-- Two decimals have an order unless one of them is not a number. -/
theorem exists_compare? {a b : Decimal} (ha : a.isNaN = false) (hb : b.isNaN = false) :
    ∃ o, compare? a b = some o := by
  cases a with
  | nan n s p m => cases ha
  | finite n c e =>
    cases b with
    | nan m s p k => cases hb
    | _ => exact ⟨_, rfl⟩
  | infinite n =>
    cases b with
    | nan m s p k => cases hb
    | _ => exact ⟨_, rfl⟩

/-- What is finite is a number. -/
theorem isNaN_of_isFinite {d : Decimal} (h : d.isFinite = true) : d.isNaN = false := by
  cases d with
  | finite n c e => rfl
  | infinite n => cases h
  | nan n s p m => cases h

/-! ## Contexts -/

namespace Context

variable {ctx : Context} {negative : Bool} {coefficient : Nat} {exponent : Int}

/-- A context has room for all digits of a coefficient at an exponent: the last one does not stand too low and
the leading one not too high. Zero has no leading digit, and only its exponent counts. -/
def HasRoom (ctx : Context) (coefficient : Nat) (exponent : Int) : Prop :=
  if coefficient = 0 then ctx.tiny ≤ exponent ∧ exponent ≤ ctx.maxExponent
  else
    digitCount coefficient ≤ ctx.precision ∧ ctx.tiny ≤ exponent ∧
      adjusted coefficient exponent ≤ ctx.maxExponent

/-- Where there is room, nothing has to be done, and at most it is said that the decimal is subnormal. -/
theorem fit_of_hasRoom (h : ctx.HasRoom coefficient exponent) :
    (ctx.fit (.finite negative coefficient exponent)).1 = .finite negative coefficient exponent ∧
      (ctx.fit (.finite negative coefficient exponent)).2.all (· == .subnormal) = true := by
  rw [HasRoom] at h
  rw [fit]
  split at h
  · rename_i hzero
    subst hzero
    have hfitted : min (max exponent ctx.tiny) ctx.maxExponent = exponent := by omega
    simp [fitZero, hfitted]
  · rename_i hnonzero
    simp only [adjusted] at h
    have htop : ¬ ctx.top < digitCount coefficient + exponent - ctx.precision := by
      simp only [top]
      omega
    have hleast : ¬ exponent < max (digitCount coefficient + exponent - ctx.precision) ctx.tiny := by omega
    rw [if_neg hnonzero, fitNonzero, if_neg htop, if_neg hleast]
    refine ⟨rfl, ?_⟩
    simp only
    split <;> rfl

/-- Where digits are dropped, this is said. -/
theorem rounded_mem_dropDigits (least : Int) (subnormal : Bool) :
    .rounded ∈ (ctx.dropDigits negative coefficient exponent least subnormal).2 := by
  unfold dropDigits
  simp only
  generalize shortened coefficient (least - exponent).toNat = kept
  split <;> split <;> simp

/-- Where there is no room, something has to be done. -/
theorem exists_signal_of_not_hasRoom (negative : Bool) (hctx : ctx.tiny ≤ ctx.maxExponent)
    (h : ¬ ctx.HasRoom coefficient exponent) :
    ∃ s ∈ (ctx.fit (.finite negative coefficient exponent)).2, s ≠ .subnormal := by
  rw [HasRoom] at h
  rw [fit]
  split at h
  · rename_i hzero
    have hfitted : ¬ min (max exponent ctx.tiny) ctx.maxExponent = exponent := by omega
    exact ⟨.clamped, by simp [hzero, fitZero, hfitted], nofun⟩
  · rename_i hnonzero
    simp only [adjusted] at h
    refine ⟨.rounded, ?_, nofun⟩
    rw [if_neg hnonzero, fitNonzero]
    split
    · simp
    · rename_i htop
      rw [top] at htop
      rw [if_pos (by omega)]
      exact rounded_mem_dropDigits _ _

/-- A context holds the finite decimals that it has room for. -/
theorem holds_finite_iff (hctx : ctx.tiny ≤ ctx.maxExponent) :
    ctx.holds (.finite negative coefficient exponent) = true ↔ ctx.HasRoom coefficient exponent := by
  rw [holds, isFinite, Bool.true_and]
  refine ⟨fun h => ?_, fun h => (fit_of_hasRoom h).2⟩
  refine Classical.byContradiction fun hroom => ?_
  obtain ⟨s, hs, hne⟩ := exists_signal_of_not_hasRoom negative hctx hroom
  exact hne (beq_iff_eq.1 (List.all_eq_true.1 h s hs))

/-- Nothing is changed about a decimal that a context holds. -/
theorem fst_fit_of_holds {d : Decimal} (hctx : ctx.tiny ≤ ctx.maxExponent) (h : ctx.holds d = true) :
    (ctx.fit d).1 = d := by
  cases d with
  | finite n c e => exact (fit_of_hasRoom ((holds_finite_iff hctx).1 h)).1
  | infinite n => cases h
  | nan n s p m => cases h

/-- The leading digit of what a context holds stands no higher than the context allows. -/
theorem adjusted_le_of_holds (hctx : ctx.tiny ≤ ctx.maxExponent)
    (h : ctx.holds (.finite negative coefficient exponent) = true) (hc : coefficient ≠ 0) :
    adjusted coefficient exponent ≤ ctx.maxExponent := by
  have hroom := (holds_finite_iff hctx).1 h
  rw [HasRoom, if_neg hc] at hroom
  exact hroom.2.2

/-- Dropping digits below the top of a context does not overflow, as a carry moves the exponent by one
only. -/
theorem signals_dropDigits {least : Int} {subnormal : Bool} (h : least < ctx.top) :
    ∀ s ∈ (ctx.dropDigits negative coefficient exponent least subnormal).2, s ≠ .overflow ∧ s ≠ .invalid := by
  have hplace : ∀ carried : Prop, [Decidable carried] →
      ¬ ctx.top < (if carried then least + 1 else least) := by
    intro carried _
    split <;> omega
  intro s hs
  rw [dropDigits, if_neg (hplace _)] at hs
  simp only [List.mem_append, List.mem_singleton] at hs
  grind

/-- A decimal whose leading digit stands lower than a context allows neither overflows nor is invalid
there. -/
theorem signals_fit (htiny : ctx.tiny < ctx.top)
    (h : coefficient ≠ 0 → adjusted coefficient exponent < ctx.maxExponent) :
    ∀ s ∈ (ctx.fit (.finite negative coefficient exponent)).2, s ≠ .overflow ∧ s ≠ .invalid := by
  intro s hs
  rw [fit] at hs
  split at hs
  · -- a zero is clamped at most
    rw [fitZero] at hs
    split at hs
    · cases hs
    · obtain rfl := List.mem_singleton.1 hs
      exact ⟨nofun, nofun⟩
  · rename_i hc
    have hlast : (digitCount coefficient : Int) + exponent - ctx.precision < ctx.top := by
      have hlead := h hc
      simp only [adjusted] at hlead
      simp only [top]
      omega
    rw [fitNonzero, if_neg (by omega)] at hs
    split at hs
    · exact signals_dropDigits (by omega) s hs
    · split at hs
      · obtain rfl := List.mem_singleton.1 hs
        exact ⟨nofun, nofun⟩
      · cases hs

end Context

end Decimal

namespace Number

/-- The store holds finite numbers only. -/
theorem isFinite_of_storable {n : Number} (h : n.storable = true) : n.reading.isFinite = true := by
  rw [storable, Decimal.Context.holds, Bool.and_eq_true] at h
  exact h.1

/-- What the store holds has an exact value that is a number. -/
theorem isNaN_exact_of_storable {n : Number} (h : n.storable = true) : n.exact.isNaN = false := by
  have hfinite := isFinite_of_storable h
  cases n with
  | int n => rfl
  | decimal d => exact Decimal.isNaN_of_isFinite hfinite
  | double x =>
    cases x with
    | finite s m q canonical =>
      simp only [exact, Double.toExact]
      split <;> rfl
    | infinite s => rfl
    | nan mark => cases hfinite

/-- Two numbers stand in a relation or do not, unless one of them is not a number. -/
theorem exists_holds? {m n : Number} (hm : m.exact.isNaN = false) (hn : n.exact.isNaN = false)
    (r : Relation) : ∃ answer, m.holds? r n = some answer := by
  obtain ⟨o, ho⟩ := Decimal.exists_compare? hm hn
  exact ⟨r.admits o, by rw [holds?, ho]⟩

end Number

end Amend
