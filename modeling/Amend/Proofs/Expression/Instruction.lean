import Amend.Proofs.Expression.Compiled
import Amend.Update

/-!
# Instructions

A statement speaks of placeholders. Read through the two maps of an expression, each of its items is an
instruction: an action, the field that it is done to and, unless the field is removed, the value that it is
done with. `Assignment.instruction?` and `Statement.instructions?` read items in this way; an item that has
the form of no action, or a placeholder that stands for nothing, is no instruction.

The expression of a request is read back as the request's own instructions
(`statement_instructions?`): no token leads to another field or to another value.
-/

namespace Amend

open Expression

/-- What an update does to one field. -/
inductive Instruction where
  | assign (field : String) (a : Attribute)
  | remove (field : String)
  | increment (field : String) (a : Attribute)
  | append (field : String) (a : Attribute)

namespace Instruction

/-- The action of an instruction. -/
def action : Instruction → Action
  | .assign .. => .assign
  | .remove _ => .remove
  | .increment .. => .increment
  | .append .. => .append

/-- The field of an instruction. -/
def field : Instruction → String
  | .assign f _ | .remove f | .increment f _ | .append f _ => f

/-- Among instructions on distinct fields, each is the only one on its field. -/
theorem filter_field_eq {is : List Instruction} {i : Instruction} (h : (is.map field).Nodup)
    (hi : i ∈ is) : is.filter (fun j => j.field = i.field) = [i] := by
  induction is with
  | nil => cases hi
  | cons k rest ih =>
    rw [List.map_cons, List.nodup_cons] at h
    rcases List.mem_cons.1 hi with rfl | hi
    · rw [List.filter_cons_of_pos (by simp), List.filter_eq_nil_iff.2]
      intro j hj heq
      exact h.1 (List.mem_map.2 ⟨j, hj, of_decide_eq_true heq⟩)
    · have hne : k.field ≠ i.field := fun heq => h.1 (heq ▸ List.mem_map_of_mem hi)
      rw [List.filter_cons_of_neg (by simpa using hne)]
      exact ih h.2 hi

end Instruction

namespace Request

/-- What a request does to its fields, in the order in which an expression says it. -/
def instructions (r : Request) : List Instruction :=
  (r.assign.entries.map (fun e => .assign e.1 e.2.toAttribute) ++
    (r.increment.entries.map (fun e => .increment e.1 e.2.toAttribute) ++
      r.append.entries.map fun e => .append e.1 e.2.toAttribute)) ++ r.remove.map .remove

variable {r : Request}

/-- The instructions of a request are on its fields. -/
theorem map_field_instructions (r : Request) :
    r.instructions.map Instruction.field = r.written.map Prod.fst ++ r.remove := by
  simp [instructions, written, Instruction.field, Function.comp_def]

/-- The instructions of a request that names no field twice are on distinct fields. -/
theorem nodup_field_instructions (h : r.fields.all.Nodup) :
    (r.instructions.map Instruction.field).Nodup := by
  rw [map_field_instructions]
  exact (Expression.perm_all r).nodup_iff.2 h

/-- The instructions of a request, one bucket after another. -/
theorem mem_instructions {i : Instruction} :
    i ∈ r.instructions ↔
      (∃ e ∈ r.assign.entries, i = .assign e.1 e.2.toAttribute) ∨
      (∃ e ∈ r.increment.entries, i = .increment e.1 e.2.toAttribute) ∨
      (∃ e ∈ r.append.entries, i = .append e.1 e.2.toAttribute) ∨
      ∃ f ∈ r.remove, i = .remove f := by
  simp only [instructions, List.mem_append, List.mem_map, or_assoc, eq_comm]

/-- The fields under an action are those of the instructions with that action. -/
theorem mem_under_iff {a : Action} {f : String} :
    f ∈ r.fields.under a ↔ ∃ i ∈ r.instructions, i.action = a ∧ i.field = f := by
  simp only [mem_instructions]
  constructor
  · intro hf
    cases a with
    | assign =>
      obtain ⟨e, he, rfl⟩ := List.mem_map.1 hf
      exact ⟨_, Or.inl ⟨e, he, rfl⟩, rfl, rfl⟩
    | remove => exact ⟨_, Or.inr (Or.inr (Or.inr ⟨f, hf, rfl⟩)), rfl, rfl⟩
    | increment =>
      obtain ⟨e, he, rfl⟩ := List.mem_map.1 hf
      exact ⟨_, Or.inr (Or.inl ⟨e, he, rfl⟩), rfl, rfl⟩
    | append =>
      obtain ⟨e, he, rfl⟩ := List.mem_map.1 hf
      exact ⟨_, Or.inr (Or.inr (Or.inl ⟨e, he, rfl⟩)), rfl, rfl⟩
  · rintro ⟨i, ⟨e, he, rfl⟩ | ⟨e, he, rfl⟩ | ⟨e, he, rfl⟩ | ⟨g, hg, rfl⟩, rfl, rfl⟩
    · exact List.mem_map_of_mem he
    · exact List.mem_map_of_mem he
    · exact List.mem_map_of_mem he
    · exact hg

end Request

namespace Attribute

/-- True of the number that a missing one counts as. -/
def isZero : Attribute → Bool
  | .number digits => digits == "0"
  | _ => false

/-- True of the list that a missing one counts as. -/
def isEmptyList : Attribute → Bool
  | .list items => items.isEmpty
  | _ => false

/-- Nothing else is zero. -/
theorem eq_zero_of_isZero {a : Attribute} (h : a.isZero = true) : a = .zero := by
  cases a with
  | number digits => rw [eq_of_beq h, zero]
  | _ => cases h

/-- Nothing else is the empty list. -/
theorem eq_emptyList_of_isEmptyList {a : Attribute} (h : a.isEmptyList = true) : a = .emptyList := by
  cases a with
  | list items => rw [List.isEmpty_iff.1 h, emptyList]
  | _ => cases h

end Attribute

namespace Expression

variable (names : NameMap String) (values : NameMap Attribute)

/-! ## Reading instructions -/

/-- The field that a token stands for. -/
def fieldOf? (token : String) : Option String :=
  names.get? ("#" ++ token)

/-- The value that a token stands for. -/
def valueOf? (token : String) : Option Attribute :=
  values.get? (":" ++ token)

/-- True of an operand that stands for a field, or for a certain value where the field is missing. -/
def startsFrom (field : String) (isStart : Attribute → Bool) : Operand → Bool
  | .ifNotExists t (.value start) =>
    fieldOf? names t == some field && (valueOf? values start).any isStart
  | _ => false

/-- The instruction for a field that its right-hand side amounts to. -/
def Source.instruction? (field : String) : Source → Option Instruction
  | .operand (.value t) => (valueOf? values t).map (.assign field)
  | .operand (.listAppend first (.value t)) =>
    if startsFrom names values field Attribute.isEmptyList first then
      (valueOf? values t).map (.append field)
    else none
  | .sum first (.value t) =>
    if startsFrom names values field Attribute.isZero first then
      (valueOf? values t).map (.increment field)
    else none
  | _ => none

/-- The instruction that an assignment amounts to. -/
def Assignment.instruction? (a : Assignment) : Option Instruction :=
  (fieldOf? names a.target).bind fun field => a.source.instruction? names values field

/-- The instruction that removes a field. -/
def removalInstruction? (token : String) : Option Instruction :=
  (fieldOf? names token).map .remove

/-- The instructions that a statement amounts to. -/
def Statement.instructions? (s : Statement) : Option (List Instruction) := do
  let sets ← s.assignments.mapM (Assignment.instruction? names values)
  let removals ← s.removals.mapM (removalInstruction? names)
  return sets ++ removals

end Expression

/-- The instructions that the expression of an update amounts to. -/
def Update.instructions? (u : Update) : Option (List Instruction) :=
  (Statement.ofText? u.expression).bind fun s => s.instructions? u.names u.values

namespace Expression

/-! ## Reading back a request -/

/-- Things that are all read are read one by one. -/
theorem mapM_map_eq_some {α β γ : Type} {f : α → β} {g : β → Option γ} {h : α → γ} {xs : List α}
    (hread : ∀ x ∈ xs, g (f x) = some (h x)) : (xs.map f).mapM g = some (xs.map h) := by
  induction xs with
  | nil => rfl
  | cons x rest ih =>
    rw [List.map_cons, List.mapM_cons, hread x (by simp), ih fun y hy => hread y (by simp [hy])]
    rfl

/-- What is said of the fields of a bucket is read entry by entry. -/
theorem mapM_keys_eq_some {β γ : Type} {bucket : NameMap Value} {f : String → β} {g : β → Option γ}
    {h : String × Value → γ} (hread : ∀ e ∈ bucket.entries, g (f e.1) = some (h e)) :
    (bucket.keys.map f).mapM g = some (bucket.entries.map h) := by
  rw [OrderedMap.keys, List.map_map]
  exact mapM_map_eq_some hread

section Request

variable {r : Request} (hnodup : r.fields.all.Nodup)
include hnodup

/-- The token of a field stands for the field. -/
theorem fieldOf?_token {f : String} (hf : f ∈ r.fields.all) :
    fieldOf? (.ofList r.nameEntries) (r.token f) = some f :=
  get?_nameEntries hnodup hf

/-- The token of a field stands for its value. -/
theorem valueOf?_token {e : String × Value} (he : e ∈ r.written) :
    valueOf? (.ofList r.valueEntries) (r.token e.1) = some e.2.toAttribute :=
  get?_valueEntries hnodup he

/-- What is said of an assigned field assigns it. -/
theorem instruction?_assign {e : String × Value} (he : e ∈ r.assign.entries) :
    (Assignment.assign (r.token e.1)).instruction? (.ofList r.nameEntries) (.ofList r.valueEntries) =
      some (.assign e.1 e.2.toAttribute) := by
  have hw : e ∈ r.written := List.mem_append_left _ he
  rw [Assignment.instruction?, Assignment.assign, fieldOf?_token hnodup (mem_all_of_mem_written hw)]
  show (valueOf? _ _).map _ = _
  rw [valueOf?_token hnodup hw]
  rfl

/-- What is said of an incremented field increments it. -/
theorem instruction?_increment {e : String × Value} (he : e ∈ r.increment.entries) :
    (Assignment.increment (r.token e.1)).instruction? (.ofList r.nameEntries) (.ofList r.valueEntries) =
      some (.increment e.1 e.2.toAttribute) := by
  have hw : e ∈ r.written := List.mem_append_right _ (List.mem_append_left _ he)
  have hfield := fieldOf?_token hnodup (mem_all_of_mem_written hw)
  have hstart : valueOf? (.ofList r.valueEntries) "_start_zero" = some .zero := get?_startZero hnodup he
  rw [Assignment.instruction?, Assignment.increment, hfield]
  show (if startsFrom _ _ _ _ _ then _ else _) = _
  rw [if_pos (by simp [startsFrom, hfield, hstart, Attribute.isZero, Attribute.zero]),
    valueOf?_token hnodup hw]
  rfl

/-- What is said of a field that is appended to appends to it. -/
theorem instruction?_append {e : String × Value} (he : e ∈ r.append.entries) :
    (Assignment.append (r.token e.1)).instruction? (.ofList r.nameEntries) (.ofList r.valueEntries) =
      some (.append e.1 e.2.toAttribute) := by
  have hw : e ∈ r.written := List.mem_append_right _ (List.mem_append_right _ he)
  have hfield := fieldOf?_token hnodup (mem_all_of_mem_written hw)
  have hstart : valueOf? (.ofList r.valueEntries) "_start_empty" = some .emptyList :=
    get?_startEmpty hnodup he
  rw [Assignment.instruction?, Assignment.append, hfield]
  show (if startsFrom _ _ _ _ _ then _ else _) = _
  rw [if_pos (by simp [startsFrom, hfield, hstart, Attribute.isEmptyList, Attribute.emptyList]),
    valueOf?_token hnodup hw]
  rfl

/-- What an expression says of a request is what the request does. -/
theorem statement_instructions? :
    r.statement.instructions? (.ofList r.nameEntries) (.ofList r.valueEntries) = some r.instructions := by
  have hsets : r.statement.assignments.mapM (Assignment.instruction? (.ofList r.nameEntries)
      (.ofList r.valueEntries)) = some (r.assign.entries.map (fun e => .assign e.1 e.2.toAttribute) ++
        (r.increment.entries.map (fun e => .increment e.1 e.2.toAttribute) ++
          r.append.entries.map fun e => .append e.1 e.2.toAttribute)) := by
    rw [Request.statement, List.mapM_append, List.mapM_append,
      mapM_keys_eq_some fun e he => instruction?_assign hnodup he,
      mapM_keys_eq_some fun e he => instruction?_increment hnodup he,
      mapM_keys_eq_some fun e he => instruction?_append hnodup he]
    rfl
  have hremovals : r.statement.removals.mapM (removalInstruction? (.ofList r.nameEntries)) =
      some (r.remove.map .remove) := by
    refine mapM_map_eq_some fun f hf => ?_
    rw [removalInstruction?, fieldOf?_token hnodup ((perm_all r).subset (List.mem_append_right _ hf))]
    rfl
  rw [Statement.instructions?, hsets, hremovals]
  rfl

end Request

end Expression

end Amend
