import Amend.Proofs.Expression.Instruction
import Amend.Request.Bookkeeping

/-!
# What writing the bookkeeping fields does to a request

A request with its bookkeeping fields is the request without them and one more entry for each of them, at the
end of its bucket: the key and the other three buckets are those of the request without them. So what a caller
says about a bookkeeping field never shows (`withAutoFields_withoutAutoFields`), and a request does what it did
without the bookkeeping fields and writes these besides (`instructions_withAutoFields`).
-/

namespace Amend

/-! ## The entries of a policy -/

namespace Policy

variable {α : Type} (p : Policy α) (stamp : String)

/-- The entry that assigns the time of the update, if a policy keeps it. -/
def timeEntries : List (String × Value) :=
  if p.autoTimestamp then [(timestampField, .text stamp)] else []

/-- The entry that increments the count of updates, if a policy keeps it. -/
def countEntries : List (String × Value) :=
  if p.autoVersion then [(versionField, .one)] else []

/-- The instructions that write the bookkeeping fields which a policy keeps. -/
def autoInstructions : List Instruction :=
  (p.timeEntries stamp).map (fun e => .assign e.1 e.2.toAttribute) ++
    p.countEntries.map fun e => .increment e.1 e.2.toAttribute

/-- The two bookkeeping fields are different ones. -/
theorem nodup_autoInstructions : ((p.autoInstructions stamp).map Instruction.field).Nodup := by
  unfold autoInstructions timeEntries countEntries
  cases p.autoTimestamp <;> cases p.autoVersion <;> simp [Instruction.field, timestampField, versionField]

end Policy

namespace Request

/-- A request is its key and its four buckets. -/
theorem ext {r s : Request} (hkey : r.key = s.key) (hassign : r.assign = s.assign)
    (hremove : r.remove = s.remove) (hincrement : r.increment = s.increment)
    (happend : r.append = s.append) : r = s := by
  cases r
  cases s
  cases hkey
  cases hassign
  cases hremove
  cases hincrement
  cases happend
  rfl

/-! ## Dropping fields -/

/-- Dropping a field twice is dropping it once. -/
theorem without_self (r : Request) (f : String) : (r.without f).without f = r.without f := by
  refine ext rfl ?_ ?_ ?_ ?_
  · exact OrderedMap.erase_self _ f
  · simp [without, List.filter_filter]
  · exact OrderedMap.erase_self _ f
  · exact OrderedMap.erase_self _ f

/-- Two fields may be dropped in either order. -/
theorem without_comm (r : Request) (f g : String) :
    (r.without f).without g = (r.without g).without f := by
  refine ext rfl ?_ ?_ ?_ ?_
  · exact OrderedMap.erase_comm _ f g
  · simp only [without, List.filter_filter, Bool.and_comm]
  · exact OrderedMap.erase_comm _ f g
  · exact OrderedMap.erase_comm _ f g

/-- Dropping a field that is in no bucket changes nothing. -/
theorem without_of_not_mem {r : Request} {f : String} (h : f ∉ r.fields.all) : r.without f = r := by
  simp only [Fields.all_eq, fields, List.mem_append, not_or] at h
  obtain ⟨hassign, hremove, hincrement, happend⟩ := h
  refine ext rfl ?_ ?_ ?_ ?_
  · exact OrderedMap.erase_of_not_mem hassign
  · refine List.filter_eq_self.2 fun g hg => decide_eq_true ?_
    rintro rfl
    exact hremove hg
  · exact OrderedMap.erase_of_not_mem hincrement
  · exact OrderedMap.erase_of_not_mem happend

/-- The request without the bookkeeping fields that a policy keeps, in whichever buckets they are. -/
def withoutAutoFields {α : Type} (r : Request) (p : Policy α) : Request :=
  p.autoFields.foldl (fun r e => r.without e.1) r

section AutoFields

variable {α : Type} (r : Request) (p : Policy α) (stamp : String)

/-- Dropping the bookkeeping fields twice is dropping them once. -/
theorem withoutAutoFields_self :
    (r.withoutAutoFields p).withoutAutoFields p = r.withoutAutoFields p := by
  unfold withoutAutoFields Policy.autoFields
  cases p.autoTimestamp with
  | false =>
    cases p.autoVersion with
    | false => rfl
    | true => exact without_self r _
  | true =>
    cases p.autoVersion with
    | false => exact without_self r _
    | true =>
      show (((r.without _).without _).without _).without _ = (r.without _).without _
      rw [without_comm _ Policy.versionField, without_self, without_self]

/-- Dropping the bookkeeping fields of a request that names neither of them changes nothing. -/
theorem withoutAutoFields_of_not_mem {r : Request} (htime : Policy.timestampField ∉ r.fields.all)
    (hcount : Policy.versionField ∉ r.fields.all) : r.withoutAutoFields p = r := by
  unfold withoutAutoFields Policy.autoFields
  cases p.autoTimestamp with
  | false =>
    cases p.autoVersion with
    | false => rfl
    | true => exact without_of_not_mem hcount
  | true =>
    cases p.autoVersion with
    | false => exact without_of_not_mem htime
    | true =>
      show (r.without _).without _ = r
      rw [without_of_not_mem htime, without_of_not_mem hcount]

/-! ## Writing the bookkeeping fields -/

/-- The time is assigned last. -/
theorem assign_withTimestamp : (r.withTimestamp stamp).assign.entries =
    (r.without Policy.timestampField).assign.entries ++ [(Policy.timestampField, .text stamp)] :=
  OrderedMap.entries_insert_of_not_mem _ (by simp [without])

/-- The count is incremented last. -/
theorem increment_withVersion : r.withVersion.increment.entries =
    (r.without Policy.versionField).increment.entries ++ [(Policy.versionField, .one)] :=
  OrderedMap.entries_insert_of_not_mem _ (by simp [without])

/-- The bookkeeping fields leave the key alone. -/
theorem key_withAutoFields : (r.withAutoFields p stamp).key = r.key := by
  unfold withAutoFields
  cases p.autoTimestamp <;> cases p.autoVersion <;> rfl

/-- The assigned fields are those of the request without bookkeeping fields, and the time. -/
theorem assign_withAutoFields : (r.withAutoFields p stamp).assign.entries =
    (r.withoutAutoFields p).assign.entries ++ p.timeEntries stamp := by
  unfold withAutoFields withoutAutoFields Policy.autoFields Policy.timeEntries
  cases p.autoTimestamp with
  | false => cases p.autoVersion <;> exact (List.append_nil _).symm
  | true =>
    cases p.autoVersion with
    | false => exact assign_withTimestamp r stamp
    | true =>
      -- the time is no count, so it stays when what is said about the count is dropped
      show ((r.withTimestamp stamp).assign.entries.filter fun e => e.1 ≠ Policy.versionField) = _
      rw [assign_withTimestamp, List.filter_append]
      rfl

/-- The removed fields are those of the request without bookkeeping fields. -/
theorem remove_withAutoFields : (r.withAutoFields p stamp).remove = (r.withoutAutoFields p).remove := by
  unfold withAutoFields withoutAutoFields Policy.autoFields
  cases p.autoTimestamp <;> cases p.autoVersion <;> rfl

/-- The incremented fields are those of the request without bookkeeping fields, and the count. -/
theorem increment_withAutoFields : (r.withAutoFields p stamp).increment.entries =
    (r.withoutAutoFields p).increment.entries ++ p.countEntries := by
  unfold withAutoFields withoutAutoFields Policy.autoFields Policy.countEntries
  cases p.autoVersion with
  | false => cases p.autoTimestamp <;> exact (List.append_nil _).symm
  | true => cases p.autoTimestamp <;> exact increment_withVersion _

/-- The fields that are appended to are those of the request without bookkeeping fields. -/
theorem append_withAutoFields : (r.withAutoFields p stamp).append = (r.withoutAutoFields p).append := by
  unfold withAutoFields withoutAutoFields Policy.autoFields
  cases p.autoTimestamp <;> cases p.autoVersion <;> rfl

/-- What a caller says about the bookkeeping fields does not show once they are written. -/
theorem withAutoFields_withoutAutoFields :
    (r.withoutAutoFields p).withAutoFields p stamp = r.withAutoFields p stamp := by
  have hkey : (r.withoutAutoFields p).key = r.key := by
    unfold withoutAutoFields Policy.autoFields
    cases p.autoTimestamp <;> cases p.autoVersion <;> rfl
  refine ext ?_ (OrderedMap.ext ?_) ?_ (OrderedMap.ext ?_) ?_
  · rw [key_withAutoFields, key_withAutoFields, hkey]
  · rw [assign_withAutoFields, assign_withAutoFields, withoutAutoFields_self]
  · rw [remove_withAutoFields, remove_withAutoFields, withoutAutoFields_self]
  · rw [increment_withAutoFields, increment_withAutoFields, withoutAutoFields_self]
  · rw [append_withAutoFields, append_withAutoFields, withoutAutoFields_self]

/-- With its bookkeeping fields, a request does what it does without them, and writes them. -/
theorem instructions_withAutoFields : (r.withAutoFields p stamp).instructions.Perm
    ((r.withoutAutoFields p).instructions ++ p.autoInstructions stamp) := by
  simp only [instructions, Policy.autoInstructions, assign_withAutoFields, remove_withAutoFields,
    increment_withAutoFields, append_withAutoFields, List.map_append]
  -- both sides are made of the same six lists
  classical
  rw [List.perm_iff_count]
  intro i
  simp only [List.count_append]
  omega

end AutoFields

/-! ## A small request -/

/-- The key of a case. -/
def caseKey : Key :=
  ⟨.text "case" (by decide), .int 1⟩

/-- A request to close the case. -/
def closing : Request where
  key := caseKey
  assign := .ofList [("status", .text "closed")]
  remove := []
  increment := .empty
  append := .empty
  named := by decide

end Request

end Amend
