import Amend.Calendar.Reading
import Amend.Payload.Equality
import Amend.Regex.Reader
import Amend.Regex.Search
import Amend.Rejection

/-!
# Running checks

A check on a value ends in one of three ways: it holds, it is refused with a violation, or a fault ends
the call because the check could not be made at all, or because its violation cannot be told. Arguments are
looked at only where the check needs them.
-/

namespace Amend

/-- A condition without which the check is violated. -/
def require (holds : Bool) (v : Violation) : Except (OrFault Violation) Unit :=
  if holds then .ok () else refuse v

/-- Whether a flag is set, or a default where it is left out. -/
def flagSet (default : Bool) : Option Payload → Bool
  | some p => p.truthy
  | none => default

namespace Check

/-! ## Patterns and kinds -/

/-- The pattern that a text describes. -/
def patternOf (source : String) : Except Fault TextPattern :=
  (TextPattern.ofText source).mapError Fault.badPattern

/-- The text of the value has a match of the pattern. -/
def runMatching (value pattern : Payload) : Except (OrFault Violation) Unit := do
  let p ← match pattern with
    | .text s => orFault (patternOf s)
    | .pattern p => pure p
    | p => throw (.fault (.notPattern p.type))
  -- a pattern is looked for in the plain text of any value, not only of texts
  if !value.isShowable then throw (.fault .longInteger)
  require (p.search value.plain) (.noMatch value p.source)

/-- The value is of the kind with a name. A truth value is no number. -/
def isOfKind (value : Payload) : String → Bool
  | "string" => match value with
    | .text _ => true
    | _ => false
  | "number" => match value with
    | .number _ => true
    | _ => false
  | "boolean" => match value with
    | .boolean _ => true
    | _ => false
  | "list" => match value with
    | .list _ | .tuple _ => true
    | _ => false
  | "mapping" => match value with
    | .mapping _ => true
    | _ => false
  | "null" => match value with
    | .null => true
    | _ => false
  | _ => false

/-- The value is of one of the named kinds. Every name up to the one that fits must be a possible
key. -/
def anyKind (value : Payload) : List Payload → Except Fault Bool
  | [] => .ok false
  | .text name :: rest => if isOfKind value name then .ok true else anyKind value rest
  | p :: rest => do
    p.hashed
    anyKind value rest

/-- The elements of a collection, or the fault that it is none. -/
def elementsOf (p : Payload) : Except Fault (List Payload) :=
  match p.elements? with
  | some items => .ok items
  | none => .error (.notIterable p.type)

/-- The value is of one of the named kinds. -/
def runKind (value kinds : Payload) : Except (OrFault Violation) Unit := do
  let names ← orFault (elementsOf kinds)
  require (← orFault (anyKind value names)) (.wrongKind value names)

/-- The value is in the collection. -/
def runListed (value allowed : Payload) : Except (OrFault Violation) Unit := do
  if ← orFault (value.memberOf allowed) then return
  refuse (.notListed value (← orFault (elementsOf allowed)))

/-! ## Numbers -/

/-- The value is an integer, and not a negative one unless that is allowed. -/
def runInteger (value : Payload) (allowNegative : Bool) : Except (OrFault Violation) Unit :=
  match value with
  | .number (.int n) => require (allowNegative || decide (0 ≤ n)) (.negativeInteger value)
  | _ => refuse (.notInteger value)

/-- The value as a number; anything else is of the wrong kind. -/
def numberOf (value : Payload) : Except (OrFault Violation) Number :=
  match value with
  | .number n => .ok n
  | _ => refuse (.wrongKind value [.text "number"])

/-- Whether a number stands in a relation to a payload, which should be one too. -/
def compares (r : Number.Relation) (n : Number) (p : Payload) : Except Fault Bool :=
  match p.number? with
  | none => .error (.unordered r (Payload.type (.number n)) p.type)
  | some m =>
    match n.holds? r m with
    | some b => .ok b
    | none => .error .undecidable

/-- An amount of money: digits, and after a point at most two more. -/
def isAmount (cs : List Char) : Bool :=
  let whole := cs.takeWhile Char.isDigit
  !whole.isEmpty &&
    match cs.dropWhile Char.isDigit with
    | [] => true
    | '.' :: cents => cents.all Char.isDigit && (cents.length == 1 || cents.length == 2)
    | _ => false

/-- The text pattern of amounts, as the violation quotes it. -/
def amountPattern : String :=
  "^\\d+(?:\\.\\d\x7b1,2\x7d)?$"

/-- The size of a number as an amount, rounded to the digits of amounts. The number is read from its text. -/
def amountOf (n : Number) : Except Fault Decimal :=
  let (d, signals) := Decimal.amountContext.abs n.reading
  if !n.isShowable then .error .longInteger
  else if signals.contains .invalid then .error .undecidable
  else if signals.contains .overflow then .error .amountOverflow
  else .ok d

/-- The value is an amount of money, and not a negative one unless that is allowed. -/
def runCurrency (value : Payload) (allowNegative : Bool) : Except (OrFault Violation) Unit := do
  let n ← numberOf value
  if !allowNegative then
    if ← orFault (compares .lt n (.int 0)) then throw (.refused .negativeAmount)
  -- digits beyond those of amounts are rounded away before the pattern is applied
  let d ← orFault (amountOf n)
  require (isAmount d.chars) (.noMatch (.number (.decimal d)) amountPattern)

/-- The value is a number between two bounds. The lower bound is looked at first. -/
def runRange (value minimum maximum : Payload) (inclusive : Bool) : Except (OrFault Violation) Unit := do
  let n ← numberOf value
  if inclusive then
    if ← orFault (compares .lt n minimum) then refuse (.outside value minimum maximum)
    if ← orFault (compares .gt n maximum) then refuse (.outside value minimum maximum)
  else
    if ← orFault (compares .le n minimum) then refuse (.notBetween value minimum maximum)
    if ← orFault (compares .ge n maximum) then refuse (.notBetween value minimum maximum)

/-- The value is a latitude in degrees. -/
def runLatitude (value : Payload) : Except (OrFault Violation) Unit :=
  runRange value (.int (-90)) (.int 90) true

/-- The value is a longitude in degrees. -/
def runLongitude (value : Payload) : Except (OrFault Violation) Unit :=
  runRange value (.int (-180)) (.int 180) true

/-! ## Dates -/

/-- The forms of a date and time of day, longest first. -/
def dateTimePatterns : List String :=
  ["%Y-%m-%dT%H:%M:%S.%f%z", "%Y-%m-%dT%H:%M:%S%z", "%Y-%m-%dT%H:%M%z", "%Y-%m-%dT%H:%M:%S.%f",
    "%Y-%m-%dT%H:%M:%S", "%Y-%m-%dT%H:%M", "%Y-%m-%d"]

/-- A text follows a pattern, and the pattern is in order. -/
def follows (pattern text : String) : Bool :=
  match followsPattern pattern text with
  | .ok b => b
  | .error _ => false

/-- The value is a date or a date and time of day. -/
def runDateTime : Payload → Except (OrFault Violation) Unit
  | .text s => require (dateTimePatterns.any fun p => follows p s) .notDateTime
  | _ => .error (.refused .notDateTime)

/-- The value is a text that follows the pattern. -/
def runDate (value pattern : Payload) : Except (OrFault Violation) Unit :=
  match value, pattern with
  | .text s, .text p =>
    match followsPattern p s with
    | .ok b => require b (.notDate pattern)
    | .error r => .error (.fault (.repeatedDirective r))
  | _, _ => refuse (.notDate pattern)

/-! ## Structures -/

/-- The value is a point: a mapping with that type, and a longitude and latitude in a list. -/
def runGeopoint : Payload → Except (OrFault Violation) Unit
  | .mapping entries => do
    match Payload.entry? entries "type" with
    | some (.text "Point") => pure ()
    | _ => throw (.refused .notPoint)
    match Payload.entry? entries "coordinates" with
    | some (.list [east, north]) | some (.tuple [east, north]) =>
      runLongitude east
      runLatitude north
    | _ => throw (.refused .badCoordinates)
  | _ => .error (.refused .notPoint)

/-- The greatest value of a unit of a time of day. -/
def timeLimit? : String → Option Int
  | "hour" => some 23
  | "minute" => some 59
  | "second" => some 59
  | _ => none

/-- The entries of a time of day are amounts of its units. -/
def timeEntries : List (Payload × Payload) → Except (OrFault Violation) Unit
  | [] => .ok ()
  | (unit, amount) :: rest => do
    let limit? := match unit with
      | .text s => timeLimit? s
      | _ => none
    match limit? with
    | none => throw (.refused .badTimeOfDay)
    | some limit =>
      runInteger amount false
      match amount with
      | .number (.int n) => require (n ≤ limit) .badTimeOfDay
      | _ => pure ()
      timeEntries rest

/-- The value is a time of day: a mapping with an hour, and of nothing but its units. -/
def runTimeOfDay : Payload → Except (OrFault Violation) Unit
  | .mapping entries =>
    if (Payload.entry? entries "hour").isSome then timeEntries entries
    else .error (.refused .badTimeOfDay)
  | _ => .error (.refused .badTimeOfDay)

/-- The units of a duration. -/
def durationUnits : List String :=
  ["years", "months", "weeks", "days", "hours", "minutes", "seconds"]

/-- The entries of a duration are amounts of its units. -/
def durationEntries : List (Payload × Payload) → Except (OrFault Violation) Unit
  | [] => .ok ()
  | (unit, amount) :: rest => do
    match unit with
    | .text s => require (durationUnits.contains s) .badDuration
    | _ => throw (.refused .badDuration)
    runInteger amount false
    durationEntries rest

/-- The value is a duration: a mapping that is not empty, of nothing but its units. -/
def runDuration : Payload → Except (OrFault Violation) Unit
  | .mapping [] => .error (.refused .badDuration)
  | .mapping entries => durationEntries entries
  | _ => .error (.refused .badDuration)

/-! ## All checks -/

/-- Runs a check on a value. -/
def run (c : Check Payload) (value : Payload) : Except (OrFault Violation) Unit :=
  match c with
  | .matching pattern => runMatching value pattern
  | .kind kinds => runKind value kinds
  | .listed allowed => runListed value allowed
  | .integer allowNegative => runInteger value (flagSet false allowNegative)
  | .currency allowNegative => runCurrency value (flagSet false allowNegative)
  | .dateTime => runDateTime value
  | .date pattern => runDate value (pattern.getD (.text "%Y-%m-%d"))
  | .range minimum maximum inclusive => runRange value minimum maximum (flagSet true inclusive)
  | .latitude => runLatitude value
  | .longitude => runLongitude value
  | .geopoint => runGeopoint value
  | .timeOfDay => runTimeOfDay value
  | .duration => runDuration value

end Check

end Amend
