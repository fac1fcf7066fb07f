import Amend.Decimal.Context
import Amend.Decimal.Order
import Amend.Double.Shortest

/-!
# Numbers

Payloads hold three kinds of number: integers of any size, doubles, and decimals as written. Numbers of
different kinds are compared by exact value. What the store receives is the decimal reading, which for a
double is what its text says.
-/

namespace Amend

/-- A number of a payload. -/
inductive Number where
  | int (n : Int)
  | double (x : Double)
  | decimal (d : Decimal)
  deriving DecidableEq, Inhabited

namespace Number

/-- The decimal that the number is written as. -/
def reading : Number → Decimal
  | .int n => .ofInt n
  | .double x => x.reading
  | .decimal d => d

/-- The exact value, as a decimal. -/
def exact : Number → Decimal
  | .int n => .ofInt n
  | .double x => x.toExact
  | .decimal d => d

/-- The plain text of a number. -/
def text : Number → String
  | .int n => toString n
  | .double x => x.text
  | .decimal d => d.text

/-- True of everything but the infinities and what is not a number. -/
def isFinite (n : Number) : Bool :=
  n.exact.isFinite

/-- True of zero of any kind. -/
def isZero (n : Number) : Bool :=
  n.exact.isZero

/-- The number with a mark, which matters only to what is not a number. -/
def marked (mark : Nat) : Number → Number
  | .double (.nan _) => .double (.nan mark)
  | .decimal (.nan negative signalling payload _) => .decimal (.nan negative signalling payload mark)
  | n => n

/-- The store can hold the number: its decimal reading fits without a change. -/
def storable (n : Number) : Bool :=
  Decimal.storeContext.holds n.reading

/-! ## Comparison -/

/-- The four ways to ask for an order. -/
inductive Relation where
  | lt
  | le
  | gt
  | ge
  deriving DecidableEq, Repr

/-- The mark of a relation. -/
def Relation.symbol : Relation → String
  | .lt => "<"
  | .le => "<="
  | .gt => ">"
  | .ge => ">="

/-- Whether an order is what a relation asks for. -/
def Relation.admits : Relation → Ordering → Bool
  | .lt, o => o == .lt
  | .le, o => o != .gt
  | .gt, o => o == .gt
  | .ge, o => o != .lt

/-- True of a number of the decimal kind. -/
def isDecimal : Number → Bool
  | .decimal _ => true
  | _ => false

/-- Whether two numbers stand in a relation. A double that is not a number stands in none; where a
decimal takes part, the question itself is an error, and there is no answer. -/
def holds? (r : Relation) (a b : Number) : Option Bool :=
  match a.exact.compare? b.exact with
  | some o => some (r.admits o)
  | none => if a.isDecimal || b.isDecimal then none else some false

/-- Whether two numbers are equal in value. Nothing equals what is not a number. -/
def same (a b : Number) : Bool :=
  a.exact.compare? b.exact == some .eq

/-- Asking whether two numbers are equal is an error if one of them is a signalling decimal. -/
def signals (a b : Number) : Bool :=
  a.exact.isSignalling || b.exact.isSignalling

end Number

end Amend
