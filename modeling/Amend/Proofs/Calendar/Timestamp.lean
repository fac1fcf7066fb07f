import Amend.Calendar.Moment
import Amend.Proofs.Calendar.DayNumber
import Amend.Proofs.Text.Numeral

/-!
# Timestamps

A moment is a number of microseconds since the start of the first year by universal time (`Moment.instant`). Its
timestamp has a fixed layout, and shows the day and time of day of that number rounded down to the millisecond
(`Denotes`). There is none exactly if the instant lies outside the years that are written with four digits.

The offset is taken off the time of day, which may leave the day for one beside it. What that comes to is said once, of
the instant (`universal_spec`): the day and the time of day by universal time make up the same instant. From there on
only days and times of day by universal time matter. These are ordered like the numbers in the layout, so timestamps
are ordered like instants.
-/

namespace Amend

/-! ## Universal time -/

/-- A day and time of day by universal time, down to the millisecond. -/
structure UniversalTime where
  date : Date
  hour : Nat
  minute : Nat
  second : Nat
  millisecond : Nat

namespace UniversalTime

/-- The day is valid, and so is the time of day. -/
structure Valid (u : UniversalTime) : Prop where
  date : u.date.isValid = true
  hour : u.hour < 24
  minute : u.minute < 60
  second : u.second < 60
  millisecond : u.millisecond < 1000

/-- The milliseconds since the start of the first year. -/
def milliseconds (u : UniversalTime) : Int :=
  u.date.dayNumber * 86400000 + u.hour * 3600000 + u.minute * 60000 + u.second * 1000 + u.millisecond

/-- The numbers of a timestamp. -/
def numbers (u : UniversalTime) : List Nat :=
  [u.date.year, u.date.month, u.date.day, u.hour, u.minute, u.second, u.millisecond]

variable {u v : UniversalTime}

/-- The numbers of a timestamp say which time it is. -/
theorem eq_of_numbers_eq (h : u.numbers = v.numbers) : u = v := by
  obtain ⟨⟨_, _, _⟩, _, _, _, _⟩ := u
  obtain ⟨⟨_, _, _⟩, _, _, _, _⟩ := v
  simp_all [numbers]

/-- A time comes before another if its numbers do. -/
theorem milliseconds_lt_of_numbers_lt (hu : u.Valid) (hv : v.Valid) (h : u.numbers < v.numbers) :
    u.milliseconds < v.milliseconds := by
  obtain ⟨⟨year, month, day⟩, hour, minute, second, millisecond⟩ := u
  obtain ⟨⟨year', month', day'⟩, hour', minute', second', millisecond'⟩ := v
  obtain ⟨hudate, huhour, huminute, husecond, humillisecond⟩ := hu
  obtain ⟨hvdate, hvhour, hvminute, hvsecond, hvmillisecond⟩ := hv
  have hbefore := Date.dayNumber_lt_of_before (Date.isValid_iff.1 hudate).2 (Date.isValid_iff.1 hvdate).2
  simp only [numbers, List.cons_lt_cons_iff] at h
  simp only [milliseconds] at *
  -- the first number that differs is one of the day, or the day is the same
  rcases h with hyear | ⟨rfl, hmonth | ⟨rfl, hday | ⟨rfl, htime⟩⟩⟩
  · have hday := hbefore (.inl hyear)
    omega
  · have hday := hbefore (.inr ⟨rfl, .inl hmonth⟩)
    omega
  · have hday := hbefore (.inr ⟨rfl, .inr ⟨rfl, hday⟩⟩)
    omega
  · simp only [List.not_lt_nil, and_false, or_false] at htime
    omega

/-- Times are ordered like their numbers. -/
theorem numbers_lt_iff (hu : u.Valid) (hv : v.Valid) : u.numbers < v.numbers ↔ u.milliseconds < v.milliseconds := by
  refine ⟨milliseconds_lt_of_numbers_lt hu hv, fun h => ?_⟩
  rcases lt_trichotomy u.numbers v.numbers with hless | hsame | hmore
  · exact hless
  · rw [eq_of_numbers_eq hsame] at h
    exact absurd h (lt_irrefl _)
  · exact absurd (milliseconds_lt_of_numbers_lt hv hu hmore) (lt_asymm h)

/-- Times of the same number are the same. -/
theorem numbers_eq_iff (hu : u.Valid) (hv : v.Valid) : u.numbers = v.numbers ↔ u.milliseconds = v.milliseconds :=
  Text.eq_iff_eq_of_lt_iff_lt (numbers_lt_iff hu hv) (numbers_lt_iff hv hu)

end UniversalTime

/-! ## Texts -/

/-- The layout of timestamps: `YYYY-MM-DDTHH:MM:SS.mmmZ`. -/
def timestampLayout : Text.Layout :=
  [(4, '-'), (2, '-'), (2, 'T'), (2, ':'), (2, ':'), (2, '.'), (3, 'Z')]

/-- A text has the layout of timestamps, and the time that it shows is a number of milliseconds after the start of the
first year. -/
def Denotes (text : String) (milliseconds : Int) : Prop :=
  ∃ u : UniversalTime, u.Valid ∧ Text.Shows timestampLayout u.numbers text.toList ∧ u.milliseconds = milliseconds

section Denotes

variable {s t : String} {i j : Int}

/-- A timestamp has 24 characters. -/
theorem Denotes.length (h : Denotes s i) : s.length = 24 := by
  obtain ⟨u, -, hs, -⟩ := h
  exact hs.length

/-- Timestamps are ordered like the times that they denote. -/
theorem Denotes.lt_iff (hs : Denotes s i) (ht : Denotes t j) : s < t ↔ i < j := by
  obtain ⟨u, hu, hs, rfl⟩ := hs
  obtain ⟨v, hv, ht, rfl⟩ := ht
  exact (hs.lt_iff ht).trans (UniversalTime.numbers_lt_iff hu hv)

/-- Timestamps are the same just if they denote the same time. -/
theorem Denotes.eq_iff (hs : Denotes s i) (ht : Denotes t j) : s = t ↔ i = j := by
  obtain ⟨u, hu, hs, rfl⟩ := hs
  obtain ⟨v, hv, ht, rfl⟩ := ht
  exact String.toList_inj.symm.trans ((hs.eq_iff ht).trans (UniversalTime.numbers_eq_iff hu hv))

end Denotes

/-! ## Moments -/

/-- An instant, in microseconds since the start of the first year, lies in the years that are written with four
digits. -/
def InWrittenYears (instant : Int) : Prop :=
  Date.dayNumber ⟨1, 1, 1⟩ * 86400000000 ≤ instant ∧ instant < Date.dayNumber ⟨10000, 1, 1⟩ * 86400000000

namespace Moment

/-- The day is valid, and so are the time of day and the offset, which is less than a day. -/
structure Valid (m : Moment) : Prop where
  date : m.date.isValid = true
  hour : m.hour < 24
  minute : m.minute < 60
  second : m.second < 60
  microsecond : m.microsecond < 1000000
  ahead : m.offset.microseconds < 86400000000
  behind : -86400000000 < m.offset.microseconds

/-- The microseconds since the start of the first year, by universal time. -/
def instant (m : Moment) : Int :=
  m.date.dayNumber * 86400000000 + m.hour * 3600000000 + m.minute * 60000000 + m.second * 1000000 +
    m.microsecond - m.offset.microseconds

variable {m n : Moment}

/-- The day and the time of day by universal time make up the instant. -/
theorem universal_spec (h : m.Valid) : m.universal.1.InCalendar ∧ m.universal.2 < 86400000000 ∧
    m.universal.1.dayNumber * 86400000000 + m.universal.2 = m.instant := by
  obtain ⟨hdate, hhour, hminute, hsecond, hmicrosecond, hahead, hbehind⟩ := h
  obtain ⟨hrange, hday⟩ := Date.isValid_iff.1 hdate
  have hyear : 1 ≤ m.date.year := (Date.inRange_bounds hrange).1
  have hinstant : m.date.dayNumber * 86400000000 + m.universalMicroseconds = m.instant := by
    simp only [universalMicroseconds, microseconds, instant]
    omega
  have hbounds : -86400000000 < m.universalMicroseconds ∧ m.universalMicroseconds < 2 * 86400000000 := by
    simp only [universalMicroseconds, microseconds]
    omega
  -- the offset leads to the day before, to the day after, or it leaves the day as it is
  by_cases hbefore : m.universalMicroseconds < 0
  · have hnumber := Date.dayNumber_previous hday hyear
    simp only [universal, if_pos hbefore]
    exact ⟨hday.previous, by omega, by omega⟩
  by_cases hafter : 86400000000 ≤ m.universalMicroseconds
  · have hnumber := Date.dayNumber_next hday
    simp only [universal, if_neg hbefore, if_pos hafter]
    exact ⟨Date.next_inCalendar m.date, by omega, by omega⟩
  · simp only [universal, if_neg hbefore, if_neg hafter]
    exact ⟨hday, by omega, by omega⟩

/-- The stamp of a valid day and of a time of that day shows them. -/
theorem denotes_stamp {d : Date} {seconds millisecond : Nat} (hd : d.isValid = true) (hs : seconds < 86400)
    (hm : millisecond < 1000) :
    Denotes (stamp d seconds millisecond) (d.dayNumber * 86400000 + seconds * 1000 + millisecond) := by
  obtain ⟨hrange, hday⟩ := Date.isValid_iff.1 hd
  have hyear := (Date.inRange_bounds hrange).2
  have hmonth := hday.month.2
  have hlast := hday.2.trans (Date.daysIn_le d.year d.month)
  have hspells {width n : Nat} (hwidth : 0 < width) (h : n < 10 ^ width) := Text.spells_padded hwidth h
  refine ⟨⟨d, seconds / 3600, seconds / 60 % 60, seconds % 60, millisecond⟩, ⟨hd, ?_, ?_, ?_, hm⟩, ?_, ?_⟩
  · exact Nat.div_lt_of_lt_mul hs
  · exact Nat.mod_lt _ (by decide)
  · exact Nat.mod_lt _ (by decide)
  · simp only [stamp, String.toList_ofList, List.append_assoc, List.cons_append]
    refine .cons (hspells ?_ ?_) <| .cons (hspells ?_ ?_) <| .cons (hspells ?_ ?_) <| .cons (hspells ?_ ?_) <|
      .cons (hspells ?_ ?_) <| .cons (hspells ?_ ?_) <| .cons (hspells ?_ ?_) .nil <;> omega
  · simp only [UniversalTime.milliseconds]
    omega

/-- A moment in the years that can be written has a timestamp, which denotes its instant. -/
theorem exists_timestamp (h : m.Valid) (hyears : InWrittenYears m.instant) :
    ∃ text, m.timestamp = .ok text ∧ Denotes text (m.instant / 1000) := by
  obtain ⟨hday, htime, hinstant⟩ := universal_spec h
  have hrange : m.universal.1.inRange = true := (Date.inRange_iff hday).2 (by unfold InWrittenYears at hyears; omega)
  have hdenotes := denotes_stamp (Date.isValid_iff.2 ⟨hrange, hday⟩)
    (show m.universal.2 / 1000000 < 86400 by omega) (show m.universal.2 / 1000 % 1000 < 1000 by omega)
  have hmilliseconds : m.universal.1.dayNumber * 86400000 + (m.universal.2 / 1000000 : Nat) * 1000 +
      (m.universal.2 / 1000 % 1000 : Nat) = m.instant / 1000 := by
    omega
  rw [hmilliseconds] at hdenotes
  simp only [timestamp, if_pos hrange]
  exact ⟨_, rfl, hdenotes⟩

/-- A moment outside these years has none. -/
theorem timestamp_eq_error (h : m.Valid) (hyears : ¬InWrittenYears m.instant) :
    m.timestamp = .error .momentOutOfRange := by
  obtain ⟨hday, htime, hinstant⟩ := universal_spec h
  have hrange : ¬m.universal.1.inRange = true := by
    rw [Date.inRange_iff hday]
    unfold InWrittenYears at hyears
    omega
  simp only [timestamp, if_neg hrange]

/-- A timestamp denotes the instant of its moment. -/
theorem denotes_of_timestamp (h : m.Valid) {text : String} (htext : m.timestamp = .ok text) :
    Denotes text (m.instant / 1000) := by
  by_cases hyears : InWrittenYears m.instant
  · obtain ⟨found, hfound, hdenotes⟩ := exists_timestamp h hyears
    obtain rfl := Except.ok.inj (hfound.symm.trans htext)
    exact hdenotes
  · rw [timestamp_eq_error h hyears] at htext
    cases htext

/-- Timestamps are exact and ordered like moments. There is none just for an instant outside the years that can be
written; every other one is denoted, down to the millisecond, by a text of 24 characters. The text of an earlier moment
does not come after that of a later one, and both are the same just if the moments lie in the same millisecond. -/
theorem timestamp_exact (hm : m.Valid) (hn : n.Valid) :
    (m.timestamp = .error .momentOutOfRange ↔ ¬InWrittenYears m.instant) ∧
      (InWrittenYears m.instant →
        ∃ text, m.timestamp = .ok text ∧ text.length = 24 ∧ Denotes text (m.instant / 1000)) ∧
      ∀ s t, m.timestamp = .ok s → n.timestamp = .ok t →
        (m.instant ≤ n.instant → s ≤ t) ∧ (s = t ↔ m.instant / 1000 = n.instant / 1000) := by
  refine ⟨⟨fun herror hyears => ?_, timestamp_eq_error hm⟩, fun hyears => ?_, fun s t hs ht => ?_⟩
  · obtain ⟨text, htext, -⟩ := exists_timestamp hm hyears
    rw [herror] at htext
    cases htext
  · obtain ⟨text, htext, hdenotes⟩ := exists_timestamp hm hyears
    exact ⟨text, htext, hdenotes.length, hdenotes⟩
  · have hs := denotes_of_timestamp hm hs
    have ht := denotes_of_timestamp hn ht
    refine ⟨fun hle hlt => ?_, hs.eq_iff ht⟩
    have hmore : n.instant / 1000 < m.instant / 1000 := (ht.lt_iff hs).1 hlt
    omega

/-- Half an hour before midnight on a leap day, where clocks are an hour behind. -/
def leapNight : Moment := ⟨⟨2024, 2, 29⟩, 23, 30, 0, 0, ⟨-3600000000⟩⟩

/-- Less than a millisecond later, where clocks are ahead by half a second less than two hours. -/
def marchMorning : Moment := ⟨⟨2024, 3, 1⟩, 2, 29, 59, 500999, ⟨7199500000⟩⟩

/-- Two moments of different days by their clocks have the same timestamp. -/
theorem timestamp_exact_leapNight : leapNight.Valid ∧ marchMorning.Valid ∧
    leapNight.timestamp = .ok "2024-03-01T00:30:00.000Z" ∧
    marchMorning.timestamp = .ok "2024-03-01T00:30:00.000Z" ∧
    leapNight.instant < marchMorning.instant ∧ leapNight.instant / 1000 = marchMorning.instant / 1000 := by
  have hnight : leapNight.Valid := ⟨by decide, by decide, by decide, by decide, by decide, by decide, by decide⟩
  have hmorning : marchMorning.Valid := ⟨by decide, by decide, by decide, by decide, by decide, by decide, by decide⟩
  have hstamp : leapNight.timestamp = .ok "2024-03-01T00:30:00.000Z" := rfl
  have hstamp' : marchMorning.timestamp = .ok "2024-03-01T00:30:00.000Z" := rfl
  refine ⟨hnight, hmorning, hstamp, hstamp', by decide, ?_⟩
  exact ((timestamp_exact hnight hmorning).2.2 _ _ hstamp hstamp').2.1 rfl

end Moment

end Amend
