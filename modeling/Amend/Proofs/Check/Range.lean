import Amend.Proofs.Check
import Amend.Proofs.Number.Order
import Amend.Proofs.Stages

/-!
# The checks for ranges

A range check looks for a number beyond a bound, and passes what it does not find there
(`runRange_eq_ok_iff`). For numbers this is the same as being in the range. What is not a number stands nowhere, so
it is found beyond no bound: as a value it passes between any two bounds, and as a bound it stops nothing. A check
that has passed therefore means that the value is in the range exactly if the value and both bounds are numbers
(`run_range_inRange_iff`).

Latitudes, longitudes and the coordinates of points are ranges between integers.
-/

namespace Amend

namespace Number

/-- A number is in a range: it comes behind the lower bound and before the upper one. -/
def InRange (inclusive : Bool) (lower n upper : Number) : Prop :=
  Precedes inclusive lower n ∧ Precedes inclusive n upper

/-- A number is not found beyond either bound of a range: it is on the right side of the bound, or unordered with
it. -/
def NotBeyond (inclusive : Bool) (lower n upper : Number) : Prop :=
  (Precedes inclusive lower n ∨ n.Unordered lower) ∧ (Precedes inclusive n upper ∨ n.Unordered upper)

variable {inclusive : Bool} {a b lower n upper : Number}

/-- What comes before something is a number, and so is what it comes before. -/
theorem Precedes.isNaN (h : Precedes inclusive a b) : a.exact.isNaN = false ∧ b.exact.isNaN = false := by
  obtain ⟨x, y, hx, hy, -⟩ := h
  rw [← Bool.not_eq_true, ← Bool.not_eq_true, ← extended?_eq_none_iff, ← extended?_eq_none_iff, hx, hy]
  exact ⟨nofun, nofun⟩

/-- Two numbers are not unordered. -/
theorem not_unordered (ha : a.exact.isNaN = false) (hb : b.exact.isNaN = false) : ¬ a.Unordered b := by
  rintro ⟨h | h, -⟩
  · exact Bool.false_ne_true (ha.symm.trans h)
  · exact Bool.false_ne_true (hb.symm.trans h)

/-- What is found beyond no bound is in the range if it and the bounds are numbers, and only then. -/
theorem NotBeyond.inRange_iff (h : NotBeyond inclusive lower n upper) :
    InRange inclusive lower n upper ↔
      lower.exact.isNaN = false ∧ n.exact.isNaN = false ∧ upper.exact.isNaN = false := by
  constructor
  · rintro ⟨hlower, hupper⟩
    exact ⟨hlower.isNaN.1, hlower.isNaN.2, hupper.isNaN.2⟩
  · rintro ⟨hlower, hn, hupper⟩
    exact ⟨h.1.resolve_right (not_unordered hn hlower), h.2.resolve_right (not_unordered hn hupper)⟩

/-- Between integers, what is found beyond no bound is in the range or a double that is not a number. -/
theorem notBeyond_int_iff {low high : Int} : NotBeyond inclusive (.int low) n (.int high) ↔
    InRange inclusive (.int low) n (.int high) ∨ ∃ mark, n = .double (.nan mark) := by
  constructor
  · intro h
    rcases Bool.eq_false_or_eq_true n.exact.isNaN with hnan | hn
    · refine .inr ?_
      -- it comes behind nothing, so it must be unordered with the lower bound
      have hdecimal : n.isDecimal = false := (h.1.resolve_left fun hlower => by
        rw [hlower.isNaN.2] at hnan
        cases hnan).2.1
      cases n with
      | int k => cases hnan
      | decimal d => cases hdecimal
      | double x =>
        cases x with
        | nan mark => exact ⟨mark, rfl⟩
        | infinite s => cases hnan
        | finite s m q canonical =>
          simp only [exact, Double.toExact] at hnan
          split at hnan <;> cases hnan
    · exact .inl (h.inRange_iff.2 ⟨rfl, hn, rfl⟩)
  · rintro (⟨hlower, hupper⟩ | ⟨mark, rfl⟩)
    · exact ⟨.inl hlower, .inl hupper⟩
    · exact ⟨.inr ⟨.inl rfl, rfl, rfl⟩, .inr ⟨.inl rfl, rfl, rfl⟩⟩

end Number

namespace Check

/-! ## Questions -/

/-- The call passes if the answer to the question is no and the rest passes. -/
theorem if_orFault_eq_ok_iff {ε α : Type} {x : Except Fault Bool} {e : OrFault ε} {rest : Except (OrFault ε) α}
    {a : α} : (orFault x >>= fun answer => if answer then .error e else rest) = .ok a ↔
      x = .ok false ∧ rest = .ok a := by
  cases x with
  | error f => exact iff_of_false nofun nofun
  | ok answer =>
    cases answer with
    | true => exact iff_of_false nofun nofun
    | false => exact ⟨fun h => ⟨rfl, h⟩, fun h => h.2⟩

/-- A condition is met if nothing is violated. -/
theorem require_eq_ok_iff {holds : Bool} {violation : Violation} :
    require holds violation = .ok () ↔ holds = true := by
  cases holds with
  | true => exact iff_of_true rfl rfl
  | false => exact iff_of_false nofun nofun

/-- The number of a payload is that of a number. -/
theorem numberOf_eq_ok_iff {p : Payload} {n : Number} : numberOf p = .ok n ↔ p = .number n := by
  cases p with
  | number m => simp [numberOf]
  | _ => simp [numberOf]

variable {p minimum maximum : Payload} {n lower upper : Number} {r : Number.Relation}

/-- A number is compared with the number that a payload counts as. -/
theorem compares_eq_ok_iff (h : p.number? = some lower) {answer : Bool} :
    compares r n p = .ok answer ↔ n.holds? r lower = some answer := by
  rw [compares, h]
  dsimp only
  cases n.holds? r lower with
  | none => simp
  | some b => simp

/-! ## Ranges -/

/-- A range check passes numbers that are found beyond no bound. -/
theorem runRange_eq_ok_iff (hmin : minimum.number? = some lower) (hmax : maximum.number? = some upper)
    (inclusive : Bool) :
    runRange p minimum maximum inclusive = .ok () ↔
      ∃ n, p = .number n ∧ Number.NotBeyond inclusive lower n upper := by
  simp only [Number.NotBeyond, ← Number.holds?_lt_eq_false_iff, ← Number.holds?_gt_eq_false_iff,
    ← compares_eq_ok_iff hmin, ← compares_eq_ok_iff hmax, ← numberOf_eq_ok_iff]
  refine bind_eq_ok_iff.trans (exists_congr fun n => and_congr_right fun _ => ?_)
  -- each kind of range asks two questions, of which both must be answered with no
  cases inclusive with
  | true => exact if_orFault_eq_ok_iff.trans (and_congr_right fun _ => if_orFault_eq_ok_iff.trans (and_iff_left rfl))
  | false => exact if_orFault_eq_ok_iff.trans (and_congr_right fun _ => if_orFault_eq_ok_iff.trans (and_iff_left rfl))

/-- A payload is an angle of at most so many degrees either way, or a double that is not a number. -/
def IsAngle (limit : Int) (p : Payload) : Prop :=
  ∃ n, p = .number n ∧ (Number.InRange true (.int (-limit)) n (.int limit) ∨ ∃ mark, n = .double (.nan mark))

/-- A range of angles passes angles. -/
theorem runRange_angle_eq_ok_iff (limit : Int) :
    runRange p (.int (-limit)) (.int limit) true = .ok () ↔ IsAngle limit p := by
  rw [runRange_eq_ok_iff rfl rfl]
  exact exists_congr fun n => and_congr_right fun _ => Number.notBeyond_int_iff

/-! ## Points -/

/-- A payload has the type of a point, and as its coordinates two angles in a list or tuple. -/
def HasAngles (p : Payload) : Prop :=
  ∃ entries pair east north, p = .mapping entries ∧ Payload.entry? entries "type" = some (.text "Point") ∧
    Payload.entry? entries "coordinates" = some pair ∧ (pair = .list [east, north] ∨ pair = .tuple [east, north]) ∧
    IsAngle 180 east ∧ IsAngle 90 north

/-- As a point passes what has the coordinates of one. -/
theorem runGeopoint_eq_ok_iff : runGeopoint p = .ok () ↔ HasAngles p := by
  simp only [HasAngles, ← runRange_angle_eq_ok_iff]
  constructor
  · intro h
    cases p with
    | mapping entries =>
      rw [runGeopoint] at h
      dsimp only at h
      split at h
      · rename_i htype
        split at h
        · rename_i east north hlist
          obtain ⟨_, heast, hnorth⟩ := bind_eq_ok_iff.1 h
          exact ⟨entries, _, east, north, rfl, htype, hlist, .inl rfl, heast, hnorth⟩
        · rename_i east north htuple
          obtain ⟨_, heast, hnorth⟩ := bind_eq_ok_iff.1 h
          exact ⟨entries, _, east, north, rfl, htype, htuple, .inr rfl, heast, hnorth⟩
        · cases h
      · cases h
    | _ => cases h
  · rintro ⟨entries, _, east, north, rfl, htype, hpair, rfl | rfl, heast, hnorth⟩
    · rw [runGeopoint, htype, hpair]
      exact bind_eq_ok_iff.2 ⟨(), heast, hnorth⟩
    · rw [runGeopoint, htype, hpair]
      exact bind_eq_ok_iff.2 ⟨(), heast, hnorth⟩

/-! ## What a check says that has passed -/

/-- A range check passes the numbers that are found beyond no bound, and then the number is in the range exactly if it
and both bounds are numbers indeed. As a latitude, a longitude or the coordinates of a point passes what is in its
range, and besides this a double that is not a number. -/
theorem run_range_inRange_iff (value minimum maximum : Number) (inclusive : Option Payload) :
    ((Check.range (.number minimum) (.number maximum) inclusive).run (.number value) = .ok () ↔
        Number.NotBeyond (flagSet true inclusive) minimum value maximum) ∧
      ((Check.range (.number minimum) (.number maximum) inclusive).run (.number value) = .ok () →
        (Number.InRange (flagSet true inclusive) minimum value maximum ↔
          minimum.exact.isNaN = false ∧ value.exact.isNaN = false ∧ maximum.exact.isNaN = false)) ∧
      (∀ p, Check.latitude.run p = .ok () ↔ IsAngle 90 p) ∧
      (∀ p, Check.longitude.run p = .ok () ↔ IsAngle 180 p) ∧
      ∀ p, Check.geopoint.run p = .ok () ↔ HasAngles p := by
  have hpasses : (Check.range (.number minimum) (.number maximum) inclusive).run (.number value) = .ok () ↔
      Number.NotBeyond (flagSet true inclusive) minimum value maximum := by
    refine (runRange_eq_ok_iff rfl rfl _).trans ⟨?_, fun h => ⟨value, rfl, h⟩⟩
    rintro ⟨n, ⟨⟩, h⟩
    exact h
  refine ⟨hpasses, fun h => (hpasses.1 h).inRange_iff, fun p => runRange_angle_eq_ok_iff 90,
    fun p => runRange_angle_eq_ok_iff 180, fun p => runGeopoint_eq_ok_iff⟩

/-- The double `0.5`. -/
def half : Number :=
  .double (.finite false 4503599627370496 (-53) (by decide))

/-- The double `0.5` passes between an integer and the decimal `0.50`, which is equal to it, and is in that range; and
the coordinates of a point at the end of both ranges pass. -/
theorem run_range_inRange_half :
    ((Check.range (.int 0) (.number (.decimal (.finite false 50 (-2)))) none).run (.number half) = .ok () ∧
      Number.InRange true (.int 0) half (.decimal (.finite false 50 (-2)))) ∧
      IsAngle 180 (.number (.decimal (.finite true 1800 (-1)))) ∧ IsAngle 90 (.int 90) := by
  have hpasses : (Check.range (.int 0) (.number (.decimal (.finite false 50 (-2)))) none).run (.number half) =
      .ok () := toOption_eq_some_iff.1 (by decide +kernel)
  have heast : Check.longitude.run (.number (.decimal (.finite true 1800 (-1)))) = .ok () :=
    toOption_eq_some_iff.1 (by decide +kernel)
  have hnorth : Check.latitude.run (.int 90) = .ok () := toOption_eq_some_iff.1 (by decide +kernel)
  obtain ⟨-, hrange, hlatitude, hlongitude, -⟩ :=
    run_range_inRange_iff half (.int 0) (.decimal (.finite false 50 (-2))) none
  exact ⟨⟨hpasses, (hrange hpasses).2 ⟨rfl, by decide +kernel, rfl⟩⟩, (hlongitude _).1 heast, (hlatitude _).1 hnorth⟩

/-- A double that is not a number passes between `0` and `10` and as a latitude, and `500` passes below such a double;
but neither is in the range. -/
theorem not_inRange_nan :
    ((Check.range (.int 0) (.int 10) none).run (.number (.double (.nan 0))) = .ok () ∧
      ¬ Number.InRange true (.int 0) (.double (.nan 0)) (.int 10)) ∧
    ((Check.range (.int 0) (.number (.double (.nan 0))) none).run (.int 500) = .ok () ∧
      ¬ Number.InRange true (.int 0) (.int 500) (.double (.nan 0))) ∧
    Check.latitude.run (.number (.double (.nan 0))) = .ok () := by
  refine ⟨⟨rfl, fun h => ?_⟩, ⟨rfl, fun h => ?_⟩, rfl⟩
  · cases h.1.isNaN.2
  · cases h.2.isNaN.2

end Check

end Amend
