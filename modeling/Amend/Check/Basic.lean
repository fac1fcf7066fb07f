import Amend.Notice
import Amend.Value

/-!
# Checks

A check is a condition on the value assigned to a field, together with its arguments. Arguments come
from outside like everything else in a policy, so they may be of any kind; an argument that is left out
has a default.

What a policy holds is a guard: a stock check, or a rule of the caller's own. Each time arguments are
bound to a stock check, a guard is made that is the same only as itself. Of a rule of the caller's own
nothing is known but what it does with a value.
-/

namespace Amend

/-- A condition on a value, with arguments of type `α`. -/
inductive Check (α : Type) where
  /-- The text of the value has a match of a pattern. -/
  | matching (pattern : α)
  /-- The value is of one of the named kinds. -/
  | kind (kinds : α)
  /-- The value is in a collection. -/
  | listed (allowed : α)
  /-- An integer, and not a negative one unless that is allowed. -/
  | integer (allowNegative : Option α)
  /-- A number with at most two decimal places, and not a negative one unless that is allowed. -/
  | currency (allowNegative : Option α)
  /-- A date, or a date and time of day, in one of the common forms. -/
  | dateTime
  /-- A text that follows a date pattern. -/
  | date (pattern : Option α)
  /-- A number between two bounds, which are included unless it is said otherwise. -/
  | range (minimum maximum : α) (inclusive : Option α)
  | latitude
  | longitude
  /-- A point: its type, and a longitude and latitude. -/
  | geopoint
  /-- An hour, with an optional minute and second. -/
  | timeOfDay
  /-- Amounts of some units of time. -/
  | duration

/-- The name of a check. -/
def Check.name {α : Type} : Check α → String
  | .matching _ => "regex_match"
  | .kind _ => "expect_type"
  | .listed _ => "expect_value_in_list"
  | .integer _ => "expect_integer"
  | .currency _ => "expect_currency"
  | .dateTime => "expect_iso_datetime"
  | .date _ => "expect_iso_date"
  | .range .. => "expect_in_range"
  | .latitude => "expect_latitude"
  | .longitude => "expect_longitude"
  | .geopoint => "expect_geopoint"
  | .timeOfDay => "expect_24h_time"
  | .duration => "expect_duration"

/-- The names of all checks. -/
def Check.names : List String :=
  ["regex_match", "expect_type", "expect_value_in_list", "expect_integer", "expect_currency",
    "expect_iso_datetime", "expect_iso_date", "expect_in_range", "expect_latitude", "expect_longitude",
    "expect_geopoint", "expect_24h_time", "expect_duration"]

/-- How a rule of the caller's own objects to a value. -/
inductive Objection where
  /-- The value is not what it should be. -/
  | violation (message : String)
  /-- The request is rejected as a whole. -/
  | rejection (kind : RejectionKind) (notice : Notice)
  /-- The request is rejected, but as none of the kinds of rejection. -/
  | unkinded (notice : Notice)
  /-- The rule cannot go on. -/
  | raised (type message : String)

/-- A rule of the caller's own: how it is shown, a mark that tells it from others, and what it does. -/
structure OwnRule where
  shown : String
  mark : Nat
  run : Value → Except Objection Unit

/-- A check as policies hold it. -/
inductive Guard (α : Type) where
  /-- A stock check. One that was made by binding arguments has a mark of its own. -/
  | stock (check : Check α) (mark : Option Nat)
  | own (rule : OwnRule)

/-- Two guards are the same one: made on the same occasion, or the same stock check, or the same rule. -/
def Guard.same {α : Type} : Guard α → Guard α → Bool
  | .stock c none, .stock d none => c.name == d.name
  | .stock _ m, .stock _ n => m == n
  | .own r, .own s => r.mark == s.mark
  | _, _ => false

/-- Two lists of guards are the same ones. -/
def Guard.sameList {α : Type} : List (Guard α) → List (Guard α) → Bool
  | [], [] => true
  | g :: gs, h :: hs => g.same h && Guard.sameList gs hs
  | _, _ => false

end Amend
