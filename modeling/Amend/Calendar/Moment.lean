import Amend.Calendar.Date
import Amend.Fault
import Amend.Text.Padded

/-!
# Moments

A moment is a day and a time of day at a place whose clocks are ahead of universal time by some offset
of less than a day. Its timestamp is the universal time down to the millisecond, in a text of fixed
width, so that timestamps are ordered like moments.
-/

namespace Amend

/-- By how many microseconds a clock is ahead of universal time. -/
structure Offset where
  microseconds : Int
  deriving DecidableEq, Repr

namespace Offset

/-- An offset of whole seconds. -/
def ofSeconds (seconds : Int) : Offset := ⟨seconds * 1000000⟩

instance : Coe Int Offset := ⟨ofSeconds⟩

instance {n : Nat} : OfNat Offset n := ⟨ofSeconds n⟩

end Offset

/-- A day and time of day, and by how much the clock is ahead of universal time. -/
structure Moment where
  date : Date
  hour : Nat
  minute : Nat
  second : Nat
  microsecond : Nat
  offset : Offset
  deriving DecidableEq, Repr

namespace Moment

/-- The microseconds since the start of the day, by the clock. -/
def microseconds (m : Moment) : Nat :=
  (m.hour * 3600 + m.minute * 60 + m.second) * 1000000 + m.microsecond

/-- The microseconds since the start of the day, by universal time; they may lie on a neighbouring day. -/
def universalMicroseconds (m : Moment) : Int :=
  m.microseconds - m.offset.microseconds

/-- The day and the microseconds since its start, by universal time. -/
def universal (m : Moment) : Date × Nat :=
  let t := m.universalMicroseconds
  if t < 0 then (m.date.previous, (t + 86400000000).toNat)
  else if 86400000000 ≤ t then (m.date.next, (t - 86400000000).toNat)
  else (m.date, t.toNat)

/-- The timestamp of a day and of seconds and milliseconds since its start. -/
def stamp (d : Date) (seconds millisecond : Nat) : String :=
  String.ofList <|
    Text.padded 4 d.year ++ '-' :: Text.padded 2 d.month ++ '-' :: Text.padded 2 d.day ++
      'T' :: Text.padded 2 (seconds / 3600) ++ ':' :: Text.padded 2 (seconds / 60 % 60) ++
      ':' :: Text.padded 2 (seconds % 60) ++ '.' :: Text.padded 3 millisecond ++ ['Z']

/-- The timestamp of a moment, if its day can be written by universal time. -/
def timestamp (m : Moment) : Except Fault String :=
  let (d, t) := m.universal
  if d.inRange then .ok (stamp d (t / 1000000) (t / 1000 % 1000)) else .error .momentOutOfRange

end Moment

end Amend
