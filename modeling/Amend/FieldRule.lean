import Amend.FieldSet

/-!
# Field rules

A field rule says which fields one action may touch, and which it must touch if it is used at all. A
rule that allows everything ignores its two lists; one that has a list permits the fields that pass
both; one that has neither permits nothing.
-/

namespace Amend

/-- Which fields one action may touch. -/
structure FieldRule where
  allowAll : Bool
  whitelist : Option FieldSet
  blacklist : Option FieldSet
  mandatory : Option FieldSet
  deriving DecidableEq

namespace FieldRule

/-- The rule that permits nothing and demands nothing. -/
def nothing : FieldRule := ⟨false, none, none, none⟩

/-- The rule that permits every field. -/
def everything : FieldRule := ⟨true, none, none, none⟩

instance : Inhabited FieldRule := ⟨nothing⟩

/-- The rule permits some field, or at least lists what it does not permit. -/
def grantsAnything (r : FieldRule) : Bool :=
  r.allowAll || r.whitelist.isSome || r.blacklist.isSome

/-- The rule permits a field. -/
def Permits (r : FieldRule) (field : String) : Prop :=
  r.allowAll = true ∨
    ((r.whitelist.isSome ∨ r.blacklist.isSome) ∧ (∀ s, r.whitelist = some s → field ∈ s) ∧
      (∀ s, r.blacklist = some s → field ∉ s))

/-- The rule that permits one more field. A rule that permitted nothing gets a whitelist. -/
def allowing (r : FieldRule) (field : String) : FieldRule :=
  { r with
    whitelist :=
      match r.whitelist with
      | some s => some (s.insert field)
      | none => if r.grantsAnything then none else some (FieldSet.empty.insert field)
    blacklist := r.blacklist.map (·.erase field) }

/-- Permitting one more field does not change what the action must touch. -/
@[simp] theorem mandatory_allowing (r : FieldRule) (field : String) :
    (r.allowing field).mandatory = r.mandatory := rfl

/-- Permitting one more field does not permit all of them. -/
@[simp] theorem allowAll_allowing (r : FieldRule) (field : String) :
    (r.allowing field).allowAll = r.allowAll := rfl

end FieldRule

end Amend
