import Amend.Policy.Basic
import Amend.Request.Payload

/-!
# Bookkeeping fields

The library itself writes the bookkeeping fields that a policy asks for. What a caller says about them is
dropped from every bucket first, so the entry that is written is the only one.
-/

namespace Amend.Request

/-- The request without a field, in whichever buckets it is. -/
def without (r : Request) (field : String) : Request where
  key := r.key
  assign := r.assign.erase field
  remove := r.remove.filter fun f => f ≠ field
  increment := r.increment.erase field
  append := r.append.erase field
  named := by
    have h := r.named
    simp only [List.mem_append, not_or] at h
    simp [h.1, h.2.1, h.2.2.1, h.2.2.2]

/-- The request with a field assigned last. -/
def assigning (r : Request) (field : String) (h : field ≠ "") (v : Value) : Request :=
  { r with
    assign := r.assign.insert field v
    named := by
      have h' := r.named
      simp only [List.mem_append, not_or] at h'
      simp [h.symm, h'.1, h'.2.1, h'.2.2.1, h'.2.2.2] }

/-- The request with a field incremented last. -/
def incrementing (r : Request) (field : String) (h : field ≠ "") (v : Value) : Request :=
  { r with
    increment := r.increment.insert field v
    named := by
      have h' := r.named
      simp only [List.mem_append, not_or] at h'
      simp [h.symm, h'.1, h'.2.1, h'.2.2.1, h'.2.2.2] }

/-- The request with the time of the update as the only entry for it. -/
def withTimestamp (r : Request) (stamp : String) : Request :=
  (r.without Policy.timestampField).assigning Policy.timestampField (by decide) (.text stamp)

/-- The request that counts the update, by the only entry for that. -/
def withVersion (r : Request) : Request :=
  (r.without Policy.versionField).incrementing Policy.versionField (by decide) .one

/-- The request with the bookkeeping fields that a policy asks for. -/
def withAutoFields {α : Type} (r : Request) (p : Policy α) (stamp : String) : Request :=
  let timed := if p.autoTimestamp then r.withTimestamp stamp else r
  if p.autoVersion then timed.withVersion else timed

end Amend.Request
