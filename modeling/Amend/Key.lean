import Amend.Decimal.Basic

/-!
# Record keys

A record is found by two parts, the partition it lies in and its place there. Either part is a text that
is not empty, an integer or a decimal.
-/

namespace Amend

/-- One part of a key. -/
inductive KeyPart where
  | text (s : String) (nonempty : s ≠ "")
  | int (n : Int)
  | decimal (d : Decimal)
  deriving DecidableEq

/-- The key of a record. -/
structure Key where
  partition : KeyPart
  sort : KeyPart
  deriving DecidableEq

end Amend
