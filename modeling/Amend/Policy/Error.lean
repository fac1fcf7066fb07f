import Amend.Fault
import Amend.Notice

/-!
# Policy errors

What can be wrong with the structure of a policy, or with the name of the table. Such an error ends a
call before any request is looked at.
-/

namespace Amend

/-- The two kinds of mapping that make up a policy. -/
inductive PolicyPart where
  | actionRule
  | policy
  deriving DecidableEq, Repr

/-- What a part of a policy is called. -/
def PolicyPart.name : PolicyPart → String
  | .actionRule => "action rule"
  | .policy => "policy"

/-- What is wrong with a policy. -/
inductive PolicyError where
  | missing
  | notMapping (part : PolicyPart) (type : TypeName)
  | unknownOption (part : PolicyPart) (name : Payload)
  | notFieldList (option : String)
  | badFieldName (option : String) (name : Payload)
  | notBoolean (option : String) (value : Payload)
  | missingRules
  | rulesNotMapping
  | unknownAction (name : Payload)
  /-- An action has a rule under both of its names. -/
  | repeatedAction (action : Action)
  | checksNotMapping
  | notCheck (field : Payload)
  | badTable (table : Payload)

namespace PolicyError

/-- What the message of a policy error adds to its heading. -/
def detail : PolicyError → String
  | .missing => "A policy configuration is required"
  | .notMapping part type => part.name ++ " must be an object, got " ++ type.short
  | .unknownOption part name => "Unknown " ++ part.name ++ " option " ++ name.shown
  | .notFieldList option => "\x60" ++ option ++ "\x60 must be a list of field names"
  | .badFieldName option name =>
    "\x60" ++ option ++ "\x60 must contain only strings, got " ++ name.shown
  | .notBoolean option value => "\x60" ++ option ++ "\x60 must be a boolean, got " ++ value.shown
  | .missingRules => "Configuration must contain \x60actionRules\x60 object"
  | .rulesNotMapping => "\x60actionRules\x60 must map action names to rules"
  | .unknownAction name => (Fault.ofUnknownAction name).message
  | .repeatedAction action => "Action '" ++ action.name ++ "' has more than one rule"
  | .checksNotMapping => "\x60valueRules\x60 must map field names to lists of rules"
  | .notCheck field => "Value rules for field " ++ field.shown ++ " must be callables"
  | .badTable table => "Table name must be a non-empty string, got " ++ table.shown

/-- The wording of a policy error. -/
def notice (e : PolicyError) : Notice :=
  ⟨"Malformed configuration", e.detail⟩

/-- A policy error can be told if the payloads in its notice can be shown. The name of an unknown action is
quoted by the fault that it is, and that it cannot be written is told like any other. -/
def isTellable : PolicyError → Bool
  | .unknownOption _ name => name.isShowable
  | .badFieldName _ name => name.isShowable
  | .notBoolean _ value => value.isShowable
  | .notCheck field => field.isShowable
  | .badTable table => table.isShowable
  | _ => true

instance : Worded PolicyError := ⟨isTellable⟩

end PolicyError

end Amend
