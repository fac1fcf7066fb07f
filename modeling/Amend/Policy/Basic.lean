import Amend.Action
import Amend.Check.Basic
import Amend.FieldRule
import Amend.OrderedMap

/-!
# Policies

A policy belongs to the caller. It has a rule for each action that requests may use, says whether the
two bookkeeping fields are kept, whether the first rejected request ends the call, and which checks the
values assigned to fields must pass.

The bookkeeping fields are written by the library itself, so they have to be permitted. `effective`
widens a policy by them, and by nothing else.
-/

namespace Amend

/-- What a caller lets requests do. Fields with checks, and the arguments of checks, come from outside and
are of type `α`. -/
structure Policy (α : Type) where
  rules : OrderedMap Action FieldRule
  autoTimestamp : Bool
  autoVersion : Bool
  failOnError : Bool
  /-- The guards of each field, if there are any. A field that is no text is never asked for. -/
  checks : Option (List (α × List (Guard α)))

namespace Policy

variable {α : Type}

/-- The field that holds the time of the last update. -/
def timestampField : String := "lastUpdated"

/-- The field that counts updates. -/
def versionField : String := "version"

/-- The rule for an action. -/
def ruleFor (p : Policy α) (a : Action) : Option FieldRule :=
  p.rules.get? a

/-- The bookkeeping fields that are kept, with the actions that write them. -/
def autoFields (p : Policy α) : List (String × Action) :=
  (if p.autoTimestamp then [(timestampField, .assign)] else []) ++
    (if p.autoVersion then [(versionField, .increment)] else [])

/-- Rules under which one more field is permitted for an action. -/
def permitting (rules : OrderedMap Action FieldRule) (field : String) (a : Action) :
    OrderedMap Action FieldRule :=
  rules.insert a (((rules.get? a).getD .nothing).allowing field)

/-- The policy under which the bookkeeping fields are permitted, each for the action that writes it. -/
def effective (p : Policy α) : Policy α :=
  { p with rules := p.autoFields.foldl (fun rules e => permitting rules e.1 e.2) p.rules }

/-- Two policies have the same rules and flags. Widening leaves the checks alone, so they are not
compared. -/
def agrees (p q : Policy α) : Bool :=
  (Action.all.all fun a => p.ruleFor a == q.ruleFor a) && p.autoTimestamp == q.autoTimestamp &&
    p.autoVersion == q.autoVersion && p.failOnError == q.failOnError

/-- The stock policy: everything is permitted, both bookkeeping fields are kept, and the first rejected
request ends the call. -/
def standard : Policy α where
  rules := .ofList (Action.all.map fun a => (a, .everything))
  autoTimestamp := true
  autoVersion := true
  failOnError := true
  checks := none

end Policy

end Amend
