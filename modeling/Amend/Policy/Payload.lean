import Amend.Payload.Visit
import Amend.Policy.Basic
import Amend.Policy.Error
import Amend.Request.Payload

/-!
# Policies from payloads

A policy comes as a mapping of options, most of which have two spellings; of an option given twice, the
later one counts. All option names are looked at before any option, and then the options in the order
rules, flags, checks. Field rules are mappings of options too. A policy that has been made before stays
as it is.
-/

namespace Amend

/-! ## Options -/

/-- The options of a mapping by their meaning, in order. -/
def readOptions {ω : Type} (part : PolicyPart) (ofName? : String → Option ω) :
    List (Payload × Payload) → Except PolicyError (List (ω × Payload))
  | [] => .ok []
  | (name, p) :: rest => do
    let known := match name with
      | .text s => ofName? s
      | _ => none
    match known with
    | some o => return (o, p) :: (← readOptions part ofName? rest)
    | none => throw (.unknownOption part name)

/-- The options that a payload spells out. -/
def optionsOf {ω : Type} (part : PolicyPart) (ofName? : String → Option ω) :
    Payload → Except PolicyError (List (ω × Payload))
  | .mapping entries => readOptions part ofName? entries
  | p => .error (.notMapping part p.type)

/-- The payload of an option: the last one given. -/
def given? {ω : Type} [DecidableEq ω] (o : ω) (options : List (ω × Payload)) : Option Payload :=
  (options.reverse.find? fun e => e.1 = o).map Prod.snd

/-- A flag, with a default. -/
def readFlag (option : String) (default : Bool) : Option Payload → Except PolicyError Bool
  | none => .ok default
  | some (.boolean b) => .ok b
  | some p => .error (.notBoolean option p)

/-! ## Field rules -/

/-- Every one of some payloads could be a member of a set. -/
def allHashed : List Payload → Except Fault Unit
  | [] => .ok ()
  | p :: rest => do
    p.hashed
    allHashed rest

/-- Names of fields, each a text. -/
def textNames (option : String) : List Payload → Except PolicyError (List String)
  | [] => .ok []
  | .text s :: rest => do return s :: (← textNames option rest)
  | p :: _ => .error (.badFieldName option p)

/-- A set of fields, if one is given: any collection but a text or bytes. -/
def readFieldSet (option : String) : Option Payload → Except (OrFault PolicyError) (Option FieldSet)
  | none | some .null => .ok none
  | some (.text _) | some (.bytes _) => .error (.refused (.notFieldList option))
  | some p =>
    match p.elements? with
    | none => .error (.refused (.notFieldList option))
    | some items => do
      orFault (allHashed items)
      return some (.ofList (← orRefuse (textNames option (p.visited items))))

namespace FieldRule

/-- The options of a field rule. -/
inductive Setting where
  | allowAll
  | whitelist
  | blacklist
  | mandatory
  deriving DecidableEq

/-- The option that a name or second name stands for. -/
def Setting.ofName? : String → Option Setting
  | "allowAll" | "allow_all" => some .allowAll
  | "whitelist" => some .whitelist
  | "blacklist" => some .blacklist
  | "mandatoryFields" | "mandatory_fields" => some .mandatory
  | _ => none

/-- The rule that a payload spells out. -/
def ofPayload (p : Payload) : Except (OrFault PolicyError) FieldRule := do
  let options ← orRefuse (optionsOf .actionRule Setting.ofName? p)
  let allowAll ← orRefuse (readFlag "allowAll" false (given? .allowAll options))
  let whitelist ← readFieldSet "whitelist" (given? .whitelist options)
  let blacklist ← readFieldSet "blacklist" (given? .blacklist options)
  let mandatory ← readFieldSet "mandatoryFields" (given? .mandatory options)
  return ⟨allowAll, whitelist, blacklist, mandatory⟩

end FieldRule

namespace Policy

/-! ## Rules and checks -/

/-- The rule for an action. One that has been made before stays as it is. -/
def ruleOf : Payload → Except (OrFault PolicyError) FieldRule
  | .rule r => .ok r
  | p => FieldRule.ofPayload p

/-- The rules of the actions, one after another. -/
def readRules : List (Payload × Payload) → OrderedMap Action FieldRule →
    Except (OrFault PolicyError) (OrderedMap Action FieldRule)
  | [], rules => .ok rules
  | (name, p) :: rest, rules =>
    match Action.ofPayload? name with
    | none => .error (.refused (.unknownAction name))
    | some a =>
      if a ∈ rules.keys then .error (.refused (.repeatedAction a))
      else do
        let rule ← ruleOf p
        readRules rest (rules.insert a rule)

/-- The rules that a payload spells out. -/
def rulesOf : Payload → Except (OrFault PolicyError) (OrderedMap Action FieldRule)
  | .null => .error (.refused .missingRules)
  | .mapping entries => readRules entries .empty
  | _ => .error (.refused .rulesNotMapping)

/-- The guards among payloads, if all of them are guards. -/
def allGuards? : List Payload → Option (List (Guard Payload))
  | [] => some []
  | .check g :: rest => (allGuards? rest).map (g :: ·)
  | _ => none

/-- The guards of one field: a single one, or a collection of them. -/
def guardsOf (field : Payload) : Payload → Except (OrFault PolicyError) (List (Guard Payload))
  | .check g => .ok [g]
  | p =>
    match p.elements? with
    | none => .error (.fault (.notIterable p.type))
    | some items =>
      match allGuards? items with
      | some gs => .ok gs
      | none => refuse (.notCheck field)

/-- The checks for all fields, one after another. -/
def readChecks : List (Payload × Payload) →
    Except (OrFault PolicyError) (List (Payload × List (Guard Payload)))
  | [] => .ok []
  | (field, p) :: rest => do
    let gs ← guardsOf field p
    return (field, gs) :: (← readChecks rest)

/-- The checks that a payload spells out, if it does. -/
def allChecksOf : Option Payload →
    Except (OrFault PolicyError) (Option (List (Payload × List (Guard Payload))))
  | none | some .null => .ok none
  | some (.mapping entries) => do return some (← readChecks entries)
  | some _ => .error (.refused .checksNotMapping)

/-! ## Policies -/

/-- The options of a policy. -/
inductive Setting where
  | actionRules
  | autoTimestamp
  | autoVersion
  | failOnError
  | valueRules
  deriving DecidableEq

/-- The option that a name or second name stands for. -/
def Setting.ofName? : String → Option Setting
  | "actionRules" | "action_rules" => some .actionRules
  | "autoTimestamp" | "auto_timestamp" => some .autoTimestamp
  | "autoVersion" | "auto_version" => some .autoVersion
  | "failOnError" | "fail_on_error" => some .failOnError
  | "valueRules" | "value_rules" => some .valueRules
  | _ => none

/-- The policy that a payload spells out. -/
def ofPayload : Payload → Except (OrFault PolicyError) (Policy Payload)
  | .policy p => .ok p
  | .null => .error (.refused .missing)
  | p => do
    let options ← orRefuse (optionsOf .policy Setting.ofName? p)
    let rules ← rulesOf ((given? .actionRules options).getD .null)
    let autoTimestamp ← orRefuse (readFlag "autoTimestamp" false (given? .autoTimestamp options))
    let autoVersion ← orRefuse (readFlag "autoVersion" false (given? .autoVersion options))
    let failOnError ← orRefuse (readFlag "failOnError" true (given? .failOnError options))
    let checks ← allChecksOf (given? .valueRules options)
    return ⟨rules, autoTimestamp, autoVersion, failOnError, checks⟩

/-! ## Guards of a field -/

/-- The guards of the field with a name. -/
def checksFor (p : Policy Payload) (field : String) : List (Guard Payload) :=
  (Payload.entry? (p.checks.getD []) field).getD []

end Policy

end Amend
