import Amend.Proofs.Expression.Instruction
import Amend.Proofs.Judgement

/-!
# What compiling a request comes to

A request is judged, compiled and has its key encoded, and each of the three may refuse it.
`Request.compile_eq` puts the three together, and the ways in which it can end are read off there: with an
update whose expression is the one in closed form (`Request.compile_eq_ok_iff`), which is read back as the
instructions of the request (`Request.instructions?_of_compile`), or with a fault, which only a check on an
assigned value can bring about, or a key that cannot be encoded and is too long to be quoted
(`Request.compile_eq_fault_iff`).
-/

namespace Amend.Request

variable {r : Request} {table : String} {p : Policy Payload}

/-- The update for a request with an encoded key. -/
def update (r : Request) (table : String) (key : NameMap Attribute) : Update :=
  ⟨table, key, r.text, .ofList r.nameEntries, .ofList r.valueEntries, Update.recordExists⟩

/-- A request is judged, has to name a field, and has its key encoded. -/
theorem compile_eq (r : Request) (table : String) (p : Policy Payload) :
    r.compile table p = do
      r.judge p
      if r.fields.isEmpty then throw (.refused .emptyUpdate)
      let key ← orRefuse r.key.toAttributes
      return r.update table key := by
  rw [compile]
  cases hfields : r.fields.isEmpty with
  | true =>
    rw [Expression.compile, if_pos hfields]
    rfl
  | false =>
    rw [Expression.compile_eq hfields]
    rfl

/-- What a request is compiled to depends on nothing in a policy but its rules and its checks. -/
theorem compile_congr {p q : Policy Payload} (hrules : p.rules = q.rules) (hchecks : p.checks = q.checks)
    (r : Request) (table : String) : r.compile table p = r.compile table q := by
  rw [compile, compile, judge_congr hrules hchecks]

/-- When there is an update, and which. -/
theorem compile_eq_ok_iff {u : Update} :
    r.compile table p = .ok u ↔ r.judge p = .ok () ∧ r.fields.isEmpty = false ∧
      ∃ key, r.key.toAttributes = .ok key ∧ u = r.update table key := by
  rw [compile_eq]
  cases r.judge p with
  | error e => exact iff_of_false nofun fun h => nomatch h.1
  | ok _ =>
    cases r.fields.isEmpty with
    | true => exact iff_of_false nofun fun h => nomatch h.2.1
    | false =>
      cases r.key.toAttributes with
      | error e =>
        refine iff_of_false nofun ?_
        rintro ⟨-, -, key, hkey, -⟩
        cases hkey
      | ok key =>
        constructor
        · rintro ⟨⟩
          exact ⟨rfl, rfl, key, rfl, rfl⟩
        · rintro ⟨-, -, key', hkey, rfl⟩
          cases hkey
          rfl

/-- The expression of an update is read back as the instructions of the request that it comes of, and these
are on distinct fields. -/
theorem instructions?_of_compile {u : Update} (h : r.compile table p = .ok u) :
    u.instructions? = some r.instructions ∧ (r.instructions.map Instruction.field).Nodup := by
  obtain ⟨hjudge, hfields, key, -, rfl⟩ := compile_eq_ok_iff.1 h
  have hdistinct := (conforms_of_judge hjudge).distinct
  have hread : Expression.Statement.ofText? (r.update table key).expression = some r.statement :=
    (Expression.statement_isReadingOf hfields hdistinct).ofText?_eq
  refine ⟨?_, nodup_field_instructions hdistinct⟩
  rw [Update.instructions?, hread]
  exact Expression.statement_instructions? hdistinct

/-- The fault that a check on an assigned value ends in, if a request comes to be checked at all. -/
def checkFault? (r : Request) (p : Policy Payload) : Option Fault :=
  match r.rejection? p, checkAssigned p r.assign.entries with
  | none, .error (.fault f) => some f
  | _, _ => none

/-- Only a check on an assigned value makes a judgement end in a fault. -/
theorem judge_eq_fault_iff {f : Fault} :
    r.judge p = .error (.fault f) ↔ r.checkFault? p = some f := by
  rw [judge, checkFault?]
  cases r.rejection? p with
  | some e => exact iff_of_false (by rintro ⟨⟩) (by rintro ⟨⟩)
  | none =>
    cases checkAssigned p r.assign.entries with
    | ok _ => exact iff_of_false (by rintro ⟨⟩) (by rintro ⟨⟩)
    | error e =>
      cases e with
      | refused e => exact iff_of_false (by rintro ⟨⟩) (by rintro ⟨⟩)
      | fault g =>
        constructor
        · rintro ⟨⟩
          rfl
        · rintro ⟨⟩
          rfl

/-- The key of a request is encoded, or the reason why not can be told, if the request gets so far. -/
def tellsKey (r : Request) (p : Policy Payload) : Bool :=
  match r.judge p, r.key.toAttributes with
  | .ok _, .error reason => r.fields.isEmpty || reason.isTellable
  | _, _ => true

/-- Only the judgement ends in a fault, or the encoding of the key. -/
theorem compile_eq_fault_iff {f : Fault} :
    r.compile table p = .error (.fault f) ↔
      r.checkFault? p = some f ∨ r.tellsKey p = false ∧ f = .longInteger := by
  rw [compile_eq, ← judge_eq_fault_iff, tellsKey]
  cases r.judge p with
  | error e =>
    constructor
    · rintro ⟨⟩
      exact .inl rfl
    · rintro (⟨⟨⟩⟩ | ⟨h, -⟩)
      · rfl
      · cases h
  | ok _ =>
    rw [or_iff_right nofun]
    cases r.fields.isEmpty with
    | true =>
      refine iff_of_false nofun fun h => ?_
      cases hkey : r.key.toAttributes with
      | ok key =>
        rw [hkey] at h
        cases h.1
      | error reason =>
        rw [hkey] at h
        cases h.1
    | false =>
      cases r.key.toAttributes with
      | ok key => exact iff_of_false nofun fun h => nomatch h.1
      | error reason =>
        show Except.error (told reason) = _ ↔ (false || reason.isTellable) = false ∧ _
        rw [Except.error.injEq, told_eq_fault_iff, Bool.false_or]
        exact Iff.rfl

end Amend.Request
