/-!
# Notices

A notice is how a refusal is told to the caller: a message, and a detail that is the message again where
there is nothing to add. The kinds of rejection are the labels under which rejections are counted.
-/

namespace Amend

/-- A refusal in words. -/
structure Notice where
  message : String
  detail : String
  deriving DecidableEq, Repr

namespace Notice

/-- The status that every refusal carries. -/
def code : Nat := 400

/-- A notice without a detail, or with an empty one, has its message as detail. -/
def ofParts (message : String) (detail : Option String) : Notice :=
  match detail with
  | some d => ⟨message, if d.isEmpty then message else d⟩
  | none => ⟨message, message⟩

end Notice

/-- The kinds of rejection. -/
inductive RejectionKind where
  | malformedKey
  | malformedRequest
  | unsupportedValue
  | emptyUpdate
  | actionNotPermitted
  | fieldNotWhitelisted
  | fieldBlacklisted
  | missingMandatoryField
  | duplicateField
  | invalidIncrementType
  | invalidAppendType
  | invalidFieldValue
  deriving DecidableEq, Repr

namespace RejectionKind

/-- The kinds of rejection, in order. -/
def all : List RejectionKind :=
  [.malformedKey, .malformedRequest, .unsupportedValue, .emptyUpdate, .actionNotPermitted,
    .fieldNotWhitelisted, .fieldBlacklisted, .missingMandatoryField, .duplicateField,
    .invalidIncrementType, .invalidAppendType, .invalidFieldValue]

/-- The label of a kind. -/
def label : RejectionKind → String
  | .malformedKey => "malformed_key"
  | .malformedRequest => "malformed_request"
  | .unsupportedValue => "unsupported_value"
  | .emptyUpdate => "empty_update"
  | .actionNotPermitted => "action_not_permitted"
  | .fieldNotWhitelisted => "field_not_whitelisted"
  | .fieldBlacklisted => "field_blacklisted"
  | .missingMandatoryField => "missing_mandatory_field"
  | .duplicateField => "duplicate_field"
  | .invalidIncrementType => "invalid_increment_type"
  | .invalidAppendType => "invalid_append_type"
  | .invalidFieldValue => "invalid_field_value"

end RejectionKind

end Amend
