/-!
# Attributes

An attribute is a value in the form in which the store receives it: tagged by its type, with numbers as
text. The two initial values that increments and appends start from stand here too.
-/

namespace Amend

/-- A value as the store receives it. -/
inductive Attribute where
  | text (s : String)
  | number (digits : String)
  | boolean (b : Bool)
  | null
  | list (items : List Attribute)
  | map (entries : List (String × Attribute))
  deriving Inhabited

namespace Attribute

/-- What a missing number counts as when it is incremented. -/
def zero : Attribute := .number "0"

/-- What a missing list counts as when it is appended to. -/
def emptyList : Attribute := .list []

/-- True of numbers. -/
def isNumber : Attribute → Bool
  | .number _ => true
  | _ => false

/-- True of lists. -/
def isList : Attribute → Bool
  | .list _ => true
  | _ => false

end Attribute

end Amend
