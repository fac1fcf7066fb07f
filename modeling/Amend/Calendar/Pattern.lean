import Amend.Text.CharClass

/-!
# Date patterns

A date pattern is a text with directives for the parts of a date and time of day, such as `%Y-%m-%d`.
White space stands for any white space, and every other character for itself, whatever its case. Three
directives stand for several others.

No directive may stand twice in a pattern, and the first that does is what `DatePattern.repetition?`
finds.
-/

namespace Amend

namespace DatePattern

/-- A piece of a date pattern. -/
inductive Piece where
  | year
  /-- The last two digits of a year. -/
  | shortYear
  /-- The year to which the week of a day belongs. -/
  | weekYear
  | month
  | monthName
  | shortMonthName
  | day
  /-- The number of a day in its year. -/
  | yearDay
  | weekdayName
  | shortWeekdayName
  /-- The number of a day of the week after Sunday, which is zero. -/
  | weekdayFromSunday
  /-- The number of a day of the week from Monday, which is one. -/
  | weekdayFromMonday
  /-- The week of a year, of which the first one starts with the first Sunday, or Monday. -/
  | week (fromSunday : Bool)
  /-- The week of a year, of which the first one has the fourth of January. -/
  | isoWeek
  | hour
  /-- The hour by a clock of twelve hours. -/
  | clockHour
  /-- The half of a day. -/
  | half
  | minute
  | second
  | fraction
  | zone
  /-- One of the two names of universal time. -/
  | zoneName
  | blank
  | literal (c : Char)
  deriving DecidableEq, Repr

/-! ## Directives -/

/-- The letter of a directive. -/
def Piece.letter? : Piece → Option Char
  | .year => some 'Y'
  | .shortYear => some 'y'
  | .weekYear => some 'G'
  | .month => some 'm'
  | .monthName => some 'B'
  | .shortMonthName => some 'b'
  | .day => some 'd'
  | .yearDay => some 'j'
  | .weekdayName => some 'A'
  | .shortWeekdayName => some 'a'
  | .weekdayFromSunday => some 'w'
  | .weekdayFromMonday => some 'u'
  | .week true => some 'U'
  | .week false => some 'W'
  | .isoWeek => some 'V'
  | .hour => some 'H'
  | .clockHour => some 'I'
  | .half => some 'p'
  | .minute => some 'M'
  | .second => some 'S'
  | .fraction => some 'f'
  | .zone => some 'z'
  | .zoneName => some 'Z'
  | .blank => none
  | .literal _ => none

/-- The piece that the letter of a directive stands for, if it stands for one. -/
def piece? : Char → Option Piece
  | 'Y' => some .year
  | 'y' => some .shortYear
  | 'G' => some .weekYear
  | 'm' => some .month
  | 'B' => some .monthName
  | 'b' => some .shortMonthName
  | 'd' => some .day
  | 'j' => some .yearDay
  | 'A' => some .weekdayName
  | 'a' => some .shortWeekdayName
  | 'w' => some .weekdayFromSunday
  | 'u' => some .weekdayFromMonday
  | 'U' => some (.week true)
  | 'W' => some (.week false)
  | 'V' => some .isoWeek
  | 'H' => some .hour
  | 'I' => some .clockHour
  | 'p' => some .half
  | 'M' => some .minute
  | 'S' => some .second
  | 'f' => some .fraction
  | 'z' => some .zone
  | 'Z' => some .zoneName
  | '%' => some (.literal '%')
  | _ => none

/-- The pieces of a time of day. -/
def timePieces : List Piece :=
  [.hour, .literal ':', .minute, .literal ':', .second]

/-- The pieces that the letter of a directive stands for: a date with its time of day, a date, a time of
day, or one piece. -/
def directive? (c : Char) : Option (List Piece) :=
  match c with
  | 'c' => some ([.shortWeekdayName, .blank, .shortMonthName, .blank, .day, .blank] ++ timePieces ++
      [.blank, .year])
  | 'x' => some [.month, .literal '/', .day, .literal '/', .shortYear]
  | 'X' => some timePieces
  | c => (piece? c).map ([·])

/-- The pieces of a pattern; a sign that starts no directive makes it no pattern. -/
def pieces? : List Char → Option (List Piece)
  | [] => some []
  | '%' :: c :: rest => do return (← directive? c) ++ (← pieces? rest)
  | '%' :: [] => none
  | c :: rest => do
    let more ← pieces? rest
    -- a run of white space in the pattern is a single piece
    if Text.isBlank c then
      return if more.head? = some .blank then more else .blank :: more
    else return .literal c :: more

/-! ## Names -/

/-- The months of a year. -/
def monthNames : List String :=
  ["january", "february", "march", "april", "may", "june", "july", "august", "september", "october",
    "november", "december"]

/-- The days of a week. -/
def weekdayNames : List String :=
  ["monday", "tuesday", "wednesday", "thursday", "friday", "saturday", "sunday"]

/-- The names of the halves of a day. -/
def halfNames : List String := ["am", "pm"]

/-- The names of universal time. -/
def zoneNames : List String := ["utc", "gmt"]

/-- The short form of a name. -/
def short (name : String) : String :=
  String.ofList (name.toList.take 3)

/-- Names of which the longer ones come first. -/
def longestFirst (names : List String) : List String :=
  names.mergeSort fun a b => b.length ≤ a.length

/-! ## Repeated directives

A complaint about a repeated directive names the two places as they are counted in the text pattern that
the date pattern amounts to, where every directive is a named group and an offset has two more groups
inside.
-/

/-- What a named group for a directive holds. -/
def Piece.body : Piece → String
  | .year | .weekYear => "\\d\\d\\d\\d"
  | .shortYear => "\\d\\d"
  | .month | .clockHour => "1[0-2]|0[1-9]|[1-9]"
  | .monthName => "|".intercalate (longestFirst monthNames)
  | .shortMonthName => "|".intercalate (monthNames.map short)
  | .day => "3[0-1]|[1-2]\\d|0[1-9]|[1-9]| [1-9]"
  | .yearDay => "36[0-6]|3[0-5]\\d|[1-2]\\d\\d|0[1-9]\\d|00[1-9]|[1-9]\\d|0[1-9]|[1-9]"
  | .weekdayName => "|".intercalate (longestFirst weekdayNames)
  | .shortWeekdayName => "|".intercalate (weekdayNames.map short)
  | .weekdayFromSunday => "[0-6]"
  | .weekdayFromMonday => "[1-7]"
  | .week _ => "5[0-3]|[0-4]\\d|\\d"
  | .isoWeek => "5[0-3]|0[1-9]|[1-4]\\d|\\d"
  | .hour => "2[0-3]|[0-1]\\d|\\d"
  | .half => "|".intercalate halfNames
  | .minute => "[0-5]\\d|\\d"
  | .second => "6[0-1]|[0-5]\\d|\\d"
  | .fraction => "[0-9]\x7b1,6\x7d"
  | .zone => "[+-]\\d\\d:?[0-5]\\d(:?[0-5]\\d(\\.\\d\x7b1,6\x7d)?)?|(?-i:Z)"
  | .zoneName => "|".intercalate zoneNames
  | .blank => "\\s+"
  | .literal c => if "\\.^$*+?()\x7b\x7d[]|".contains c then "\\" ++ String.singleton c else String.singleton c

/-- The length of a piece in the text pattern: a group has seven characters around what it holds. -/
def Piece.width (p : Piece) : Nat :=
  p.body.length + (if p.letter?.isSome then 7 else 0)

/-- How many groups a piece has in the text pattern. -/
def Piece.groups (p : Piece) : Nat :=
  if p = .zone then 3 else if p.letter?.isSome then 1 else 0

/-- A directive that stands twice: its letter, the two groups, and the position of the second name. -/
structure Repetition where
  letter : Char
  group : Nat
  first : Nat
  position : Nat
  deriving DecidableEq, Repr

/-- The first directive that stands for the second time. The directives before it are given with their
groups, and so are the groups and characters passed so far. -/
def repetition? (seen : List (Char × Nat)) (groups position : Nat) : List Piece → Option Repetition
  | [] => none
  | p :: rest =>
    match p.letter? with
    | none => repetition? seen groups (position + p.width) rest
    | some letter =>
      match seen.find? fun e => e.1 = letter with
      | some e => some ⟨letter, groups + 1, e.2, position + 4⟩
      | none =>
        repetition? (seen ++ [(letter, groups + 1)]) (groups + p.groups) (position + p.width) rest

end DatePattern

end Amend
