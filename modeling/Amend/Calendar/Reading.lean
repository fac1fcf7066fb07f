import Amend.Calendar.Pattern
import Amend.Calendar.YearDay
import Amend.Text.Case
import Amend.Power

/-!
# Reading by a date pattern

A text follows a pattern if reading it piece by piece, each piece taking what it likes best and less
only where a later piece needs it, ends at the end of the text, and the parts read make a moment: a day
that exists, a second below sixty, an offset of less than a day. Digits may be those of any script,
except where a piece names them.

A part may be given more than once, in different forms, and then the last one counts. A day of the year
counts for more than a month and day, and a week with a day of the week counts as much as that.
-/

namespace Amend

namespace DatePattern

/-! ## Reading a text -/

/-- One way to read a piece: the characters taken and those left. -/
abbrev Taken := List Char × List Char

/-- Takes characters that each pass a test of their own, if they all do. -/
def take? : List (Char → Bool) → List Char → Option Taken
  | [], cs => some ([], cs)
  | test :: tests, c :: rest =>
    if test c then (take? tests rest).map fun t => (c :: t.1, t.2) else none
  | _ :: _, [] => none

/-- The ways to take characters by one of some lists of tests, in order. -/
def choices (options : List (List (Char → Bool))) (cs : List Char) : List Taken :=
  options.filterMap fun tests => take? tests cs

/-- The ways to take between one and `most` characters that pass a test, longest first. -/
def runs (test : Char → Bool) (most : Nat) (cs : List Char) : List Taken :=
  let available := min most (cs.takeWhile test).length
  (List.range available).map fun n => (cs.take (available - n), cs.drop (available - n))

/-- A character between two others. -/
def within (first last : Char) (c : Char) : Bool :=
  first ≤ c && c ≤ last

/-- One certain character. -/
def only (expected : Char) (c : Char) : Bool :=
  c == expected

/-- A character, whatever its case. -/
def anyCase (expected : Char) (c : Char) : Bool :=
  Text.sameLetter expected.toNat c.toNat

/-- The ways to take one of some names, whatever its case. -/
def named (names : List String) (cs : List Char) : List Taken :=
  choices (names.map fun name => name.toList.map anyCase) cs

/-- What can follow the minutes of an offset: seconds, perhaps after a colon, with an optional
fraction; or nothing. -/
def zoneTails (cs : List Char) : List Taken :=
  let seconds := choices [[only ':', within '0' '5', Text.isDigit], [within '0' '5', Text.isDigit]] cs
  (seconds.flatMap fun s =>
    (match s.2 with
      | '.' :: rest => (runs Text.isDigit 6 rest).map fun f => (s.1 ++ '.' :: f.1, f.2)
      | _ => []) ++ [s]) ++ [([], cs)]

/-- The ways to read an offset: `Z`, or a sign with hours and minutes and what can follow them. -/
def zones (cs : List Char) : List Taken :=
  let sign (c : Char) : Bool := c == '+' || c == '-'
  let minutes := choices
    [[sign, Text.isDigit, Text.isDigit, only ':', within '0' '5', Text.isDigit],
      [sign, Text.isDigit, Text.isDigit, within '0' '5', Text.isDigit]] cs
  (minutes.flatMap fun m => (zoneTails m.2).map fun t => (m.1 ++ t.1, t.2)) ++
    choices [[only 'Z']] cs

/-- The ways to read a piece, best first. -/
def Piece.ways : Piece → List Char → List Taken
  | .year | .weekYear => choices [[Text.isDigit, Text.isDigit, Text.isDigit, Text.isDigit]]
  | .shortYear => choices [[Text.isDigit, Text.isDigit]]
  | .month | .clockHour =>
    choices [[only '1', within '0' '2'], [only '0', within '1' '9'], [within '1' '9']]
  | .monthName => named (longestFirst monthNames)
  | .shortMonthName => named (monthNames.map short)
  | .day => choices [[only '3', within '0' '1'], [within '1' '2', Text.isDigit],
      [only '0', within '1' '9'], [within '1' '9'], [only ' ', within '1' '9']]
  | .yearDay => choices [[only '3', only '6', within '0' '6'], [only '3', within '0' '5', Text.isDigit],
      [within '1' '2', Text.isDigit, Text.isDigit], [only '0', within '1' '9', Text.isDigit],
      [only '0', only '0', within '1' '9'], [within '1' '9', Text.isDigit], [only '0', within '1' '9'],
      [within '1' '9']]
  | .weekdayName => named (longestFirst weekdayNames)
  | .shortWeekdayName => named (weekdayNames.map short)
  | .weekdayFromSunday => choices [[within '0' '6']]
  | .weekdayFromMonday => choices [[within '1' '7']]
  | .week _ => choices [[only '5', within '0' '3'], [within '0' '4', Text.isDigit], [Text.isDigit]]
  | .isoWeek => choices [[only '5', within '0' '3'], [only '0', within '1' '9'],
      [within '1' '4', Text.isDigit], [Text.isDigit]]
  | .hour => choices [[only '2', within '0' '3'], [within '0' '1', Text.isDigit], [Text.isDigit]]
  | .half => named halfNames
  | .minute => choices [[within '0' '5', Text.isDigit], [Text.isDigit]]
  | .second => choices [[only '6', within '0' '1'], [within '0' '5', Text.isDigit], [Text.isDigit]]
  | .fraction => runs (within '0' '9') 6
  | .zone => zones
  | .zoneName => named zoneNames
  | .blank => fun cs => runs Text.isBlank cs.length cs
  | .literal c => choices [[anyCase c]]

/-- What pieces have taken, in order. -/
abbrev Taking := List (Piece × List Char)

/-- The first reading of pieces, one after another: what each has taken, and what is left. -/
def firstReading : List Piece → List Char → Option (Taking × List Char)
  | [], cs => some ([], cs)
  | p :: rest, cs =>
    (p.ways cs).findSome? fun t =>
      (firstReading rest t.2).map fun r => ((p, t.1) :: r.1, r.2)

/-! ## The parts of a reading -/

/-- The number that digits are, passing over a blank before them. -/
def numberOf (cs : List Char) : Nat :=
  Text.digitsValue (cs.filter Text.isDigit)

/-- The place of a name among names. Letters of other scripts that count as Latin ones make no name. -/
def placeOf? (names : List String) (cs : List Char) : Option Nat :=
  names.idxOf? (String.ofList (cs.map Char.toLower))

/-- The last thing that some piece of a reading says. -/
def lastOf? (say : Piece → List Char → Option Nat) (t : Taking) : Option Nat :=
  t.reverse.findSome? fun e => say e.1 e.2

/-- The year. Of two digits, those from 69 on are years of the century before. -/
def year? : Taking → Option Nat :=
  lastOf? fun
    | .year, cs => some (numberOf cs)
    | .shortYear, cs => some (if numberOf cs ≤ 68 then 2000 + numberOf cs else 1900 + numberOf cs)
    | _, _ => none

/-- The month. -/
def month? : Taking → Option Nat :=
  lastOf? fun
    | .month, cs => some (numberOf cs)
    | .monthName, cs => (placeOf? monthNames cs).map (· + 1)
    | .shortMonthName, cs => (placeOf? (monthNames.map short) cs).map (· + 1)
    | _, _ => none

/-- The day of the week, from Monday on. -/
def weekday? : Taking → Option Nat :=
  lastOf? fun
    | .weekdayName, cs => placeOf? weekdayNames cs
    | .shortWeekdayName, cs => placeOf? (weekdayNames.map short) cs
    | .weekdayFromSunday, cs => some ((numberOf cs + 6) % 7)
    | .weekdayFromMonday, cs => some (numberOf cs - 1)
    | _, _ => none

/-- The week of the year with the day that it starts on. -/
def week? (t : Taking) : Option (Bool × Nat) :=
  t.reverse.findSome? fun
    | (.week fromSunday, cs) => some (fromSunday, numberOf cs)
    | _ => none

/-- The number that a piece has taken. -/
def partOf? (p : Piece) : Taking → Option Nat :=
  lastOf? fun q cs => if q = p then some (numberOf cs) else none

/-- Every name of a reading is one. -/
def namesValid (t : Taking) : Bool :=
  t.all fun
    | (.monthName, cs) => (placeOf? monthNames cs).isSome
    | (.shortMonthName, cs) => (placeOf? (monthNames.map short) cs).isSome
    | (.weekdayName, cs) => (placeOf? weekdayNames cs).isSome
    | (.shortWeekdayName, cs) => (placeOf? (weekdayNames.map short) cs).isSome
    | _ => true

/-- A year by weeks comes with its week and a day of the week, and no day of the year. A week of such a
year does not come without it. -/
def weeksValid (t : Taking) : Bool :=
  if (partOf? .weekYear t).isSome then
    (partOf? .yearDay t).isNone && (partOf? .isoWeek t).isSome && (weekday? t).isSome
  else (partOf? .isoWeek t).isNone

/-- The year and the number of a day in it, if the day is given by that or by a week. -/
def yearDay? (year : Nat) (t : Taking) : Option (Nat × Int) :=
  match partOf? .yearDay t, weekday? t, week? t, partOf? .weekYear t, partOf? .isoWeek t with
  | some n, _, _, _, _ => some (year, n)
  | none, some w, some (fromSunday, n), _, _ => some (year, Date.dayOfWeek year fromSunday n w)
  | none, some w, none, some y, some n => some (y, Date.dayOfIsoWeek y n w)
  | _, _, _, _, _ => none

/-- The day that a reading names. A part that the pattern lacks is that of the start of 1900. -/
def dateOf? (t : Taking) : Option Date :=
  let month := (month? t).getD 1
  let day := (partOf? .day t).getD 1
  -- a day that not every year has is looked for in a leap year first
  let leap := (year? t).isNone && month == 2 && day == 29
  let year := (year? t).getD (if leap then 1904 else 1900)
  let found? := match yearDay? year t with
    | some (y, n) => Date.ofYearDay? y n
    | none => some ⟨year, month, day⟩
  found?.map fun d => if leap then { d with year := 1900 } else d

/-- The microseconds that a fraction of at most six digits stands for. -/
def microseconds (digits : List Char) : Nat :=
  Text.digitsValue digits * 10 ^ (6 - digits.length)

/-- The seconds and microseconds that end an offset, in microseconds; there is a colon before them just
if there is one before the minutes. -/
def zoneSeconds? (colon : Bool) : List Char → Option Nat
  | [] => some 0
  | cs =>
    let digits? := match cs with
      | ':' :: rest => if colon then some rest else none
      | rest => if colon then none else some rest
    digits?.map fun ds => Text.digitsValue (ds.take 2) * 1000000 + microseconds (ds.drop 3)

/-- The size of an offset in microseconds, whatever its sign, if it is written consistently. -/
def zoneSize? : List Char → Option Nat
  | _ :: h :: h' :: ':' :: m :: m' :: rest =>
    (zoneSeconds? true rest).map fun s => Text.digitsValue [h, h'] * 3600000000 +
      Text.digitsValue [m, m'] * 60000000 + s
  | _ :: h :: h' :: m :: m' :: rest =>
    (zoneSeconds? false rest).map fun s => Text.digitsValue [h, h'] * 3600000000 +
      Text.digitsValue [m, m'] * 60000000 + s
  | _ => some 0

/-- Every offset of a reading is written consistently and less than a day. -/
def zoneValid (t : Taking) : Bool :=
  match t.find? fun e => e.1 = .zone with
  | some e => (zoneSize? e.2).any (· < 86400000000)
  | none => true

/-- The parts of a reading make a moment. -/
def makesMoment (t : Taking) : Bool :=
  (dateOf? t).any Date.isValid && (partOf? .second t).getD 0 < 60 && namesValid t && weeksValid t &&
    zoneValid t

end DatePattern

/-- Whether a text follows a date pattern. A repeated directive makes the question itself an error. -/
def followsPattern (pattern text : String) : Except DatePattern.Repetition Bool :=
  match DatePattern.pieces? pattern.toList with
  | none => .ok false
  | some pieces =>
    match DatePattern.repetition? [] 0 0 pieces with
    | some r => .error r
    | none =>
      match DatePattern.firstReading pieces text.toList with
      | some (taking, []) => .ok (DatePattern.makesMoment taking)
      | _ => .ok false

end Amend
