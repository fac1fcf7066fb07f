import Mathlib.Algebra.BigOperators.Group.List.Basic
import Mathlib.Algebra.GroupWithZero.Nat
import Mathlib.Order.Monotone.Basic
import Amend.Calendar.YearDay

/-!
# The number of a day

Days are counted from the first day of the first year (`Date.dayNumber`). Before a year there have been 365 days in each
year since the first one, and one more in each leap year; before a month, the days of the months before it.

The day after a day has the next number, and the day before it the previous one. Days are ordered like their numbers, so
that a day lies in the years that are written with four digits just if its number lies between those of their first
days.
-/

namespace Amend.Date

/-! ## Years and months -/

/-- The number of days before a year. In the year before the first one it is negative. -/
def daysBeforeYear (year : Nat) : Int :=
  let past : Int := year - 1
  365 * past + past / 4 - past / 100 + past / 400

/-- The number of days of a year before a month. -/
def daysBeforeMonth (year month : Nat) : Nat :=
  ((List.range month).map (daysIn year)).sum

/-- The number of days since the first day of the first year. -/
def dayNumber (d : Date) : Int :=
  daysBeforeYear d.year + daysBeforeMonth d.year d.month + d.day - 1

/-- The day is one of the calendar, whatever its year. -/
def InCalendar (d : Date) : Prop :=
  1 ≤ d.day ∧ d.day ≤ daysIn d.year d.month

/-- A leap year, as divisibility. -/
theorem isLeap_iff {year : Nat} : isLeap year = true ↔ year % 4 = 0 ∧ (year % 100 ≠ 0 ∨ year % 400 = 0) := by
  simp [isLeap]

/-- A year is followed by the next one after as many days as it has. -/
theorem daysBeforeYear_succ (year : Nat) :
    daysBeforeYear (year + 1) = daysBeforeYear year + yearLength year := by
  simp only [daysBeforeYear, yearLength]
  by_cases h : isLeap year
  · rw [if_pos h]
    have h := isLeap_iff.1 h
    omega
  · rw [if_neg h]
    have h := mt isLeap_iff.2 h
    omega

/-- Years start one after another. -/
theorem daysBeforeYear_lt_iff {year other : Nat} : daysBeforeYear year < daysBeforeYear other ↔ year < other := by
  have hmono : StrictMono daysBeforeYear := by
    refine strictMono_nat_of_lt_succ fun year => ?_
    rw [daysBeforeYear_succ, yearLength]
    split <;> omega
  exact hmono.lt_iff_lt

/-- A later year starts no earlier. -/
theorem daysBeforeYear_le_iff {year other : Nat} : daysBeforeYear year ≤ daysBeforeYear other ↔ year ≤ other := by
  rw [← Int.not_lt, ← Nat.not_lt, daysBeforeYear_lt_iff]

/-- A month is followed by the next one after as many days as it has. -/
theorem daysBeforeMonth_succ (year month : Nat) :
    daysBeforeMonth year (month + 1) = daysBeforeMonth year month + daysIn year month := by
  simp [daysBeforeMonth, List.range_succ]

/-- Later months start no earlier. -/
theorem daysBeforeMonth_mono (year : Nat) : Monotone (daysBeforeMonth year) := by
  refine monotone_nat_of_le_succ fun month => ?_
  rw [daysBeforeMonth_succ]
  omega

/-- The months of a year come to its length. -/
theorem daysBeforeMonth_thirteen (year : Nat) : daysBeforeMonth year 13 = yearLength year := by
  unfold yearLength
  by_cases h : isLeap year <;> simp [daysBeforeMonth, List.range_succ, daysIn, h]

/-- December ends the year. -/
theorem daysBeforeMonth_december (year : Nat) : daysBeforeMonth year 12 + 31 = yearLength year := by
  rw [← daysBeforeMonth_thirteen]
  exact (daysBeforeMonth_succ year 12).symm

/-- Every month has a day. -/
theorem one_le_daysIn {year month : Nat} (h : 1 ≤ month) (h' : month ≤ 12) : 1 ≤ daysIn year month := by
  unfold daysIn
  grind

/-- No month has more than 31 days. -/
theorem daysIn_le (year month : Nat) : daysIn year month ≤ 31 := by
  unfold daysIn
  grind

variable {d e : Date}

/-- The years that can be written. -/
theorem inRange_bounds (h : d.inRange = true) : 1 ≤ d.year ∧ d.year ≤ 9999 := by
  simpa [inRange] using h

/-- A valid day is one of the calendar, in the years that can be written. -/
theorem isValid_iff : d.isValid = true ↔ d.inRange = true ∧ d.InCalendar := by
  simp [isValid, InCalendar, and_assoc]

/-- A day of the calendar has a month of the year. -/
theorem InCalendar.month (h : d.InCalendar) : 1 ≤ d.month ∧ d.month ≤ 12 := by
  have hday := h.1.trans h.2
  unfold daysIn at hday
  split at hday <;> omega

/-! ## The days around a day -/

/-- The day after is one of the calendar. -/
theorem next_inCalendar (d : Date) : d.next.InCalendar := by
  unfold Date.next
  split
  · next hday => exact ⟨Nat.le_add_left 1 d.day, hday⟩
  · split
    · next hmonth => exact ⟨Nat.le_refl 1, one_le_daysIn (Nat.le_add_left 1 _) hmonth⟩
    · exact ⟨Nat.le_refl 1, one_le_daysIn (Nat.le_refl 1) (Nat.le_add_left 1 11)⟩

/-- The day after has the next number. -/
theorem dayNumber_next (h : d.InCalendar) : d.next.dayNumber = d.dayNumber + 1 := by
  obtain ⟨hfirst, hlast⟩ := h
  have hmonth := InCalendar.month ⟨hfirst, hlast⟩
  unfold Date.next
  split
  · simp only [dayNumber]
    omega
  · next hday =>
    have hend : d.day = daysIn d.year d.month := by omega
    split
    · -- the last day of a month is followed by the first of the next
      simp only [dayNumber, daysBeforeMonth_succ]
      omega
    · next hdecember =>
      -- the last day of December is followed by the first of the next year
      have htwelve : d.month = 12 := by omega
      have hlength := daysBeforeMonth_december d.year
      have hnew : daysBeforeMonth (d.year + 1) 1 = 0 := rfl
      rw [htwelve] at hend
      simp only [dayNumber, daysBeforeYear_succ, htwelve, hend, hnew, ← hlength, daysIn]
      omega

example : dayNumber ⟨2024, 2, 29⟩ = 738944 := by decide

/-- The day before is one of the calendar. -/
theorem InCalendar.previous (h : d.InCalendar) : d.previous.InCalendar := by
  have hmonth := h.month
  unfold Date.previous
  split
  · next hday => exact ⟨Nat.le_sub_one_of_lt hday, (Nat.sub_le _ _).trans h.2⟩
  · split
    · exact ⟨one_le_daysIn (by omega) (by omega), Nat.le_refl _⟩
    · exact ⟨Nat.le_add_left 1 30, Nat.le_refl 31⟩

/-- In a year that can be counted, the day before has the previous number. -/
theorem dayNumber_previous (h : d.InCalendar) (hyear : 1 ≤ d.year) :
    d.previous.dayNumber = d.dayNumber - 1 := by
  have hmonth := h.month
  obtain ⟨hfirst, hlast⟩ := h
  unfold Date.previous
  split
  · simp only [dayNumber]
    omega
  · split
    · obtain ⟨month, hpast⟩ : ∃ month, d.month = month + 1 := ⟨d.month - 1, by omega⟩
      simp only [dayNumber, hpast, Nat.add_sub_cancel, daysBeforeMonth_succ]
      omega
    · obtain ⟨year, hpast⟩ : ∃ year, d.year = year + 1 := ⟨d.year - 1, by omega⟩
      have hone : d.month = 1 := by omega
      have hlength := daysBeforeMonth_december year
      have hnew : daysBeforeMonth (year + 1) 1 = 0 := rfl
      simp only [dayNumber, hpast, hone, Nat.add_sub_cancel, daysBeforeYear_succ, hnew, ← hlength]
      omega

/-! ## The order of days -/

/-- A day lies in its month. -/
theorem daysBeforeMonth_add_day_le (h : d.InCalendar) :
    daysBeforeMonth d.year d.month + d.day ≤ daysBeforeMonth d.year (d.month + 1) := by
  rw [daysBeforeMonth_succ]
  exact Nat.add_le_add_left h.2 _

/-- A day lies in its year. -/
theorem dayNumber_mem_year (h : d.InCalendar) :
    daysBeforeYear d.year ≤ d.dayNumber ∧ d.dayNumber < daysBeforeYear (d.year + 1) := by
  have hmonth : daysBeforeMonth d.year (d.month + 1) ≤ yearLength d.year := by
    rw [← daysBeforeMonth_thirteen]
    exact daysBeforeMonth_mono d.year (Nat.succ_le_succ h.month.2)
  have hday := daysBeforeMonth_add_day_le h
  have hfirst := h.1
  rw [daysBeforeYear_succ, dayNumber]
  omega

/-- A day in an earlier year, or an earlier month, or earlier in its month has a smaller number. -/
theorem dayNumber_lt_of_before (hd : d.InCalendar) (he : e.InCalendar)
    (h : d.year < e.year ∨ d.year = e.year ∧ (d.month < e.month ∨ d.month = e.month ∧ d.day < e.day)) :
    d.dayNumber < e.dayNumber := by
  rcases h with hyear | ⟨hyear, hmonth | ⟨hmonth, hday⟩⟩
  · calc d.dayNumber
        < daysBeforeYear (d.year + 1) := (dayNumber_mem_year hd).2
      _ ≤ daysBeforeYear e.year := daysBeforeYear_le_iff.2 hyear
      _ ≤ e.dayNumber := (dayNumber_mem_year he).1
  · have hstart : daysBeforeMonth d.year (d.month + 1) ≤ daysBeforeMonth d.year e.month :=
      daysBeforeMonth_mono d.year hmonth
    have hday := daysBeforeMonth_add_day_le hd
    have hfirst := he.1
    simp only [dayNumber, ← hyear]
    omega
  · simp only [dayNumber, ← hyear, ← hmonth]
    omega

/-- The years that can be written are those between the first days of the years 1 and 10000. -/
theorem inRange_iff (h : d.InCalendar) :
    d.inRange = true ↔ dayNumber ⟨1, 1, 1⟩ ≤ d.dayNumber ∧ d.dayNumber < dayNumber ⟨10000, 1, 1⟩ := by
  obtain ⟨hstart, hend⟩ := dayNumber_mem_year h
  have hfirst : dayNumber ⟨1, 1, 1⟩ = daysBeforeYear 1 := rfl
  have hlast : dayNumber ⟨10000, 1, 1⟩ = daysBeforeYear 10000 := rfl
  simp only [inRange, Bool.and_eq_true, decide_eq_true_eq, hfirst, hlast]
  constructor
  · rintro ⟨hone, hfour⟩
    exact ⟨(daysBeforeYear_le_iff.2 hone).trans hstart,
      hend.trans_le (daysBeforeYear_le_iff.2 (Nat.succ_le_succ hfour))⟩
  · rintro ⟨hone, hfour⟩
    exact ⟨Nat.le_of_lt_succ (daysBeforeYear_lt_iff.1 (hone.trans_lt hend)),
      Nat.le_of_lt_succ (daysBeforeYear_lt_iff.1 (hstart.trans_lt hfour))⟩

end Amend.Date
