/-!
# Actions

What an update can do to a field. Two of the four actions have a second name.
-/

namespace Amend

/-- What an update does to a field. -/
inductive Action where
  | assign
  | remove
  | increment
  | append
  deriving DecidableEq, Repr, Inhabited

namespace Action

/-- The actions, in the order in which they are checked. -/
def all : List Action := [.assign, .remove, .increment, .append]

/-- The name of an action. -/
def name : Action → String
  | .assign => "assign"
  | .remove => "remove"
  | .increment => "increment"
  | .append => "append"

/-- The second name of an action, if it has one. -/
def alias? : Action → Option String
  | .assign => some "set"
  | .increment => some "add"
  | _ => none

/-- The action that a name or second name stands for. -/
def ofName? (s : String) : Option Action :=
  all.find? fun a => s == a.name || some s == a.alias?

/-- Every action is found under its name. -/
theorem ofName?_name (a : Action) : ofName? a.name = some a := by
  cases a <;> decide

/-- Every action is found under its second name. -/
theorem ofName?_alias {a : Action} {s : String} (h : a.alias? = some s) : ofName? s = some a := by
  cases a <;> simp only [alias?, Option.some.injEq, reduceCtorEq] at h <;> subst h <;> decide

end Action

end Amend
