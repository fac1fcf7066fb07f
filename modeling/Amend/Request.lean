import Amend.Action
import Amend.Key
import Amend.OrderedMap
import Amend.Value

/-!
# Requests

A request names one record and says what to do to its fields, in a bucket for each action. No field
name is empty, which is part of the type. `Fields` is the outline of a request: its field names, split
by action.
-/

namespace Amend

/-- The field names of a request, split by action. -/
structure Fields where
  assign : List String
  remove : List String
  increment : List String
  append : List String
  deriving DecidableEq, Repr, Inhabited

namespace Fields

/-- The names under one action. -/
def under (f : Fields) : Action → List String
  | .assign => f.assign
  | .remove => f.remove
  | .increment => f.increment
  | .append => f.append

/-- All names in the order of the actions, as often as they occur. -/
def all (f : Fields) : List String :=
  Action.all.flatMap f.under

/-- True if no field is named. -/
def isEmpty (f : Fields) : Bool :=
  f.all.isEmpty

/-- All names are those of the four buckets, one after another. -/
theorem all_eq (f : Fields) : f.all = f.assign ++ (f.remove ++ (f.increment ++ f.append)) := by
  simp [all, Action.all, under]

end Fields

/-- What to do to one record. -/
structure Request where
  key : Key
  assign : NameMap Value
  remove : List String
  increment : NameMap Value
  append : NameMap Value
  named : "" ∉ assign.keys ++ (remove ++ (increment.keys ++ append.keys))

namespace Request

/-- The field names of a request, split by action. -/
def fields (r : Request) : Fields :=
  ⟨r.assign.keys, r.remove, r.increment.keys, r.append.keys⟩

/-- The values under one action; a removal has none. -/
def bucket? (r : Request) : Action → Option (NameMap Value)
  | .assign => some r.assign
  | .remove => none
  | .increment => some r.increment
  | .append => some r.append

end Request

end Amend
