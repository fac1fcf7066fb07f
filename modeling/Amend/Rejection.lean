import Amend.Fault
import Amend.Notice

/-!
# Rejections

A request is rejected for one reason. Each constructor is a reason with what it is about; its kind and
its wording are functions of it. A violation is the reason why a value fails a check.
-/

namespace Amend

/-- Why a value fails a check. -/
inductive Violation where
  | noMatch (value : Payload) (pattern : String)
  | wrongKind (value : Payload) (kinds : List Payload)
  | notListed (value : Payload) (allowed : List Payload)
  | notInteger (value : Payload)
  | negativeInteger (value : Payload)
  | negativeAmount
  | notDateTime
  | notDate (pattern : Payload)
  | outside (value minimum maximum : Payload)
  | notBetween (value minimum maximum : Payload)
  | notPoint
  | badCoordinates
  | badTimeOfDay
  | badDuration
  /-- A rule of the caller's own says so. -/
  | own (message : String)

/-- The wording of a violation. -/
def Violation.message : Violation → String
  | .noMatch value pattern =>
    "Invalid value: Expected " ++ value.shown ++ " to match regex: " ++ pattern
  | .wrongKind value kinds =>
    "Invalid type: Expected " ++ value.shown ++ " to be one of type: " ++
      shownList (Payload.shownItems kinds)
  | .notListed value allowed =>
    "Invalid value: Expected " ++ value.shown ++ " to be one of " ++
      shownList (Payload.shownItems allowed)
  | .notInteger value => "Invalid value: Expected " ++ value.shown ++ " to be an integer"
  | .negativeInteger value =>
    "Invalid value: Expected " ++ value.shown ++ " to be a positive integer"
  | .negativeAmount => "Invalid value: Expected currency value to be positive"
  | .notDateTime => "Invalid date format: Expected ISO 8601 date string"
  | .notDate pattern =>
    "Date or date format is invalid: Expected ISO date string in the format " ++ pattern.plain
  | .outside value minimum maximum =>
    "Invalid value: Expected " ++ value.plain ++ " to be equal to or between " ++ minimum.plain ++
      " and " ++ maximum.plain
  | .notBetween value minimum maximum =>
    "Invalid value: Expected " ++ value.plain ++ " to be between " ++ minimum.plain ++ " and " ++
      maximum.plain
  | .notPoint => "Invalid geopoint type: Expected 'type' to be 'Point'"
  | .badCoordinates =>
    "Invalid geopoint coordinates: Expected coordinates to be an array with two elements"
  | .badTimeOfDay =>
    "Invalid time format: Expected \x7bhour: <0-23>, minute?: <0-59>, second?: <0-59>\x7d"
  | .badDuration =>
    "Invalid duration format: Expected \x7byears?: <number>, months?: <number>, weeks?: <number>, " ++
      "days?: <number>, hours?: <number>, minutes?: <number>, seconds?: <number>\x7d"
  | .own message => message

/-- A violation can be told if the payloads in its message can be shown. -/
def Violation.isTellable : Violation → Bool
  | .noMatch value _ => value.isShowable
  | .wrongKind value kinds => value.isShowable && Payload.areShowable kinds
  | .notListed value allowed => value.isShowable && Payload.areShowable allowed
  | .notInteger value => value.isShowable
  | .negativeInteger value => value.isShowable
  | .notDate pattern => pattern.isShowable
  | .outside value minimum maximum => value.isShowable && minimum.isShowable && maximum.isShowable
  | .notBetween value minimum maximum => value.isShowable && minimum.isShowable && maximum.isShowable
  | _ => true

instance : Worded Violation := ⟨Violation.isTellable⟩

/-- The notice of a violation, which has nothing to add to its message. -/
def Violation.notice (v : Violation) : Notice :=
  .ofParts v.message none

/-- Why a request is rejected. -/
inductive Rejection where
  | notRequest (raw : Payload)
  | notKey (raw : Payload)
  | badKeyPart (partition sort : Payload)
  | unknownAction (name : Payload)
  /-- An action is given under both of its names. -/
  | repeatedAction (action : Action)
  | badRemoval
  | badBucket (action : Action)
  | badFieldName (action : Action) (name : Payload)
  | unsupportedType (type : TypeName)
  /-- A mapping inside a value has a key that is no text. -/
  | unsupportedName (name : Payload)
  | notFinite (n : Number)
  /-- A number does not fit into the store as it is. -/
  | notStorable (n : Number)
  | emptyUpdate
  | actionNotPermitted (action : Action)
  | notWhitelisted (field : String) (action : Action)
  | blacklisted (field : String) (action : Action)
  | missingMandatory (field : String) (action : Action)
  | duplicateField (field : String)
  | incrementNotNumber (field : String)
  | appendNotSequence (field : String)
  | invalidValue (field : String) (violation : Violation)
  /-- A rule of the caller's own rejects the request as a whole. -/
  | own (kind : RejectionKind) (notice : Notice)

namespace Rejection

/-- What a key has to look like. -/
def keyForm : String :=
  "Item key must be of the form: \x7bpk: <partition-key>, sk: <sort-key>\x7d"

/-- The kind of a rejection. -/
def kind : Rejection → RejectionKind
  | .notRequest _ | .notKey _ | .badKeyPart .. => .malformedKey
  | .unknownAction _ | .repeatedAction _ | .badRemoval | .badBucket _ | .badFieldName .. =>
    .malformedRequest
  | .unsupportedType _ | .unsupportedName _ | .notFinite _ | .notStorable _ => .unsupportedValue
  | .emptyUpdate => .emptyUpdate
  | .actionNotPermitted _ => .actionNotPermitted
  | .notWhitelisted .. => .fieldNotWhitelisted
  | .blacklisted .. => .fieldBlacklisted
  | .missingMandatory .. => .missingMandatoryField
  | .duplicateField _ => .duplicateField
  | .incrementNotNumber _ => .invalidIncrementType
  | .appendNotSequence _ => .invalidAppendType
  | .invalidValue .. => .invalidFieldValue
  | .own kind _ => kind

/-- A notice about a request that is not well formed. -/
def malformed (reason detail : String) : Notice :=
  ⟨"Malformed request: " ++ reason, detail⟩

/-- The wording of a rejection. -/
def notice : Rejection → Notice
  | .notRequest raw => ⟨"Malformed item: " ++ raw.shown, keyForm⟩
  | .notKey raw => ⟨"Malformed item key: " ++ raw.shown, keyForm⟩
  | .badKeyPart partition sort =>
    ⟨"Malformed item key: \x7bpk: " ++ partition.shown ++ ", sk: " ++ sort.shown ++ "\x7d", keyForm⟩
  | .unknownAction name =>
    malformed ("Unknown action '" ++ name.plain ++ "'")
      ("Action '" ++ name.plain ++ "' is not one of: " ++ shownActions)
  | .repeatedAction action =>
    malformed ("Action '" ++ action.name ++ "' given more than once")
      ("Use either '" ++ action.name ++ "' or its alias, not both")
  | .badRemoval =>
    malformed "Invalid 'remove' action list" "'remove' must be a list of field names"
  | .badBucket action =>
    malformed ("Invalid '" ++ action.name ++ "' action list")
      ("'" ++ action.name ++ "' must be a mapping of field -> value")
  | .badFieldName action name =>
    malformed ("Invalid field name in '" ++ action.name ++ "' action list")
      ("Field names must be non-empty strings, got " ++ name.shown)
  | .unsupportedType type =>
    ⟨"Unsupported value type: " ++ type.short,
      "Values must be numbers, strings, booleans, lists, mappings or null"⟩
  | .unsupportedName name =>
    ⟨"Unsupported mapping key: " ++ name.shown, "Mapping keys must be strings"⟩
  | .notFinite n => ⟨"Unsupported value: " ++ n.shown, "Numbers must be finite"⟩
  | .notStorable n =>
    ⟨"Unsupported value: " ++ n.reading.text,
      "Numbers must fit in 38 significant digits within the store's exponent range"⟩
  | .emptyUpdate =>
    malformed "Nothing to update"
      "At least one of assign, remove, increment or append must name a field"
  | .actionNotPermitted action =>
    malformed ("Invalid action '" ++ action.name ++ "'")
      ("Action '" ++ action.name ++ "' is not permitted here.")
  | .notWhitelisted field action =>
    ⟨"Field '" ++ field ++ "' is not whitelisted for this action (" ++ action.name ++ ").",
      "Malformed request: Updating field '" ++ field ++ "' is not permitted."⟩
  | .blacklisted field action =>
    ⟨"Field '" ++ field ++ "' is blacklisted for this action (" ++ action.name ++ ").",
      "Malformed request: Updating field '" ++ field ++ "' is not permitted."⟩
  | .missingMandatory field action =>
    malformed ("Missing mandatory field '" ++ field ++ "'")
      ("Field '" ++ field ++ "' was expected in action " ++ action.name ++ ".")
  | .duplicateField field =>
    malformed ("Duplicate field '" ++ field ++ "' detected")
      ("Field '" ++ field ++ "' is present in multiple expressions")
  | .incrementNotNumber field =>
    malformed "Invalid field type in 'increment' action list"
      ("Field '" ++ field ++ "' must be a number")
  | .appendNotSequence field =>
    malformed "Invalid field type in 'append' action list" ("Field '" ++ field ++ "' must be a list")
  | .invalidValue field violation =>
    .ofParts ("Malformed request: Invalid value for field '" ++ field ++ "'") violation.message
  | .own _ notice => notice

/-- A rejection can be told if the payloads in its notice can be shown. A value that the store cannot hold is
quoted as it is written, which an integer may be too long for. -/
def isTellable : Rejection → Bool
  | .notRequest raw => raw.isShowable
  | .notKey raw => raw.isShowable
  | .badKeyPart partition sort => partition.isShowable && sort.isShowable
  | .unknownAction name => name.isShowable
  | .badFieldName _ name => name.isShowable
  | .unsupportedName name => name.isShowable
  | .notFinite n => n.isShowable
  | .notStorable n => n.isShowable
  | .invalidValue _ violation => violation.isTellable
  | _ => true

instance : Worded Rejection := ⟨isTellable⟩

end Rejection

end Amend
