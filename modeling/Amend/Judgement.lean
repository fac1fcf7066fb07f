import Amend.Check.Run
import Amend.Policy.Payload
import Amend.Value.Payload

/-!
# Judging a request

A request is judged against a policy, and the first thing wrong with it is the answer. The order is
fixed: for each action in turn whether it may be used, which fields it may touch and which it must; then
names that occur twice; then values that cannot be added or appended; and last the checks on assigned
values.
-/

namespace Amend

/-! ## Permissions -/

/-- The first field that is not in a whitelist. -/
def outsideWhitelist? (s : FieldSet) (fields : List String) : Option String :=
  fields.find? fun f => f ∉ s

/-- The first field that is in a blacklist. -/
def insideBlacklist? (s : FieldSet) (fields : List String) : Option String :=
  fields.find? fun f => f ∈ s

/-- The least mandatory field that is not named. -/
def missingField? (s : FieldSet) (fields : List String) : Option String :=
  s.names.find? fun f => !fields.contains f

/-- What is wrong with the fields that an action touches under a rule. -/
def FieldRule.rejection? (r : FieldRule) (a : Action) (fields : List String) : Option Rejection :=
  -- a rule that allows everything still has mandatory fields
  let listed := if r.allowAll then none else
    ((r.whitelist.bind fun s => outsideWhitelist? s fields).map fun f => .notWhitelisted f a).or
      ((r.blacklist.bind fun s => insideBlacklist? s fields).map fun f => .blacklisted f a)
  listed.or ((r.mandatory.bind fun s => missingField? s fields).map fun f => .missingMandatory f a)

/-- What is wrong with the use of an action. An action that touches no field is not used. -/
def Policy.rejection? {α : Type} (p : Policy α) (a : Action) (fields : List String) : Option Rejection :=
  if fields.isEmpty then none
  else match p.ruleFor a with
    | none => some (.actionNotPermitted a)
    | some r => if r.grantsAnything then r.rejection? a fields else some (.actionNotPermitted a)

/-! ## The request itself -/

/-- The first name that occurs for the second time, some names having been seen. -/
def repeated? (seen : List String) : List String → Option String
  | [] => none
  | f :: rest => if seen.contains f then some f else repeated? (f :: seen) rest

/-- The first entry whose value fails a test. -/
def firstFailing? (test : Value → Bool) (bucket : NameMap Value) : Option String :=
  (bucket.entries.find? fun e => !test e.2).map Prod.fst

/-- What is wrong with a request apart from its assigned values. -/
def Request.rejection? {α : Type} (r : Request) (p : Policy α) : Option Rejection :=
  (Action.all.findSome? fun a => p.rejection? a (r.fields.under a)).or <|
    ((repeated? [] r.fields.all).map .duplicateField).or <|
      ((firstFailing? Value.isNumber r.increment).map .incrementNotNumber).or <|
        (firstFailing? Value.isSequence r.append).map .appendNotSequence

/-! ## Assigned values -/

/-- How a call ends in which a rule of the caller's own objects to the value of a field. -/
def Objection.ending (field : String) : Objection → OrFault Rejection
  | .violation message => .refused (.invalidValue field (.own message))
  | .rejection kind notice => .refused (.own kind notice)
  | .unkinded notice => .fault (.unkinded notice)
  | .raised type message => .fault (.raised type message)

/-- Runs a guard on the value of a field. -/
def Guard.run (field : String) (v : Value) : Guard Payload → Except (OrFault Rejection) Unit
  | .stock check _ =>
    match check.run v.toPayload with
    | .ok () => .ok ()
    | .error (.refused violation) => .error (.refused (.invalidValue field violation))
    | .error (.fault f) => .error (.fault f)
  | .own rule =>
    match rule.run v with
    | .ok () => .ok ()
    | .error objection => .error (objection.ending field)

/-- Runs guards on the value of a field, one after another. -/
def runChecks (field : String) (v : Value) : List (Guard Payload) → Except (OrFault Rejection) Unit
  | [] => .ok ()
  | g :: rest => do
    g.run field v
    runChecks field v rest

/-- Runs the checks on assigned values, field by field. -/
def checkAssigned (p : Policy Payload) : List (String × Value) → Except (OrFault Rejection) Unit
  | [] => .ok ()
  | (field, v) :: rest => do
    runChecks field v (p.checksFor field)
    checkAssigned p rest

/-- Judges a request against a policy. -/
def Request.judge (r : Request) (p : Policy Payload) : Except (OrFault Rejection) Unit :=
  match r.rejection? p with
  | some rejection => .error (.refused rejection)
  | none => checkAssigned p r.assign.entries

end Amend
