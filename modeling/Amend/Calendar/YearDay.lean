import Amend.Calendar.Date

/-!
# Days of the year and of the week

A day can be given by its number in a year, or by a week and a day of the week. Weeks are counted in three
ways: from the first Sunday or the first Monday of a year, what comes before it being week zero, or from
the week in which the fourth of January lies. A number may point beyond its year, and then names a day of
a year beside it.

Days of the week are counted from Monday, which is zero.
-/

namespace Amend.Date

/-- How many days a year has. -/
def yearLength (year : Nat) : Nat :=
  if isLeap year then 366 else 365

/-- The day of the week on which a year starts. Before a year there have been 365 days in each year since
the first one, which starts on a Monday, and one more in each leap year. -/
def newYear (year : Nat) : Nat :=
  let past := year - 1
  (365 * past + past / 4 - past / 100 + past / 400) % 7

/-- The month and day of a day by its number in a year, of which some months are left. -/
def inMonths (year : Nat) : List Nat → Nat → Option Date
  | [], _ => none
  | month :: rest, n =>
    if n ≤ daysIn year month then some ⟨year, month, n⟩ else inMonths year rest (n - daysIn year month)

/-- The day with a number in a year, counted from one; there are days before the first and after the last
as far as the years around it go. -/
def ofYearDay? (year : Nat) (n : Int) : Option Date :=
  let months := [1, 2, 3, 4, 5, 6, 7, 8, 9, 10, 11, 12]
  let day? :=
    if n ≤ 0 then inMonths (year - 1) months (n + yearLength (year - 1)).toNat
    else if n ≤ yearLength year then inMonths year months n.toNat
    else inMonths (year + 1) months (n - yearLength year).toNat
  if 1 ≤ year then day?.filter isValid else none

/-- The number in a year of a day of one of its weeks, where weeks start on Monday or on Sunday and the
first one starts with the first such day. -/
def dayOfWeek (year : Nat) (fromSunday : Bool) (week weekday : Nat) : Int :=
  let shift := if fromSunday then 1 else 0
  let first : Int := ((newYear year + shift) % 7 : Nat)
  let day : Int := ((weekday + shift) % 7 : Nat)
  if week = 0 then 1 + day - first else 1 + (7 - first) % 7 + 7 * (week - 1) + day

/-- The number in a year of a day of one of its weeks, where the first one has the fourth of January. -/
def dayOfIsoWeek (year week weekday : Nat) : Int :=
  7 * week + weekday + 1 - ((newYear year + 3) % 7 + 4 : Nat)

end Amend.Date
