import Amend.Proofs.Batch.Outcome
import Amend.Proofs.Expression.Instruction
import Amend.Proofs.Judgement
import Amend.Proofs.Policy.Widening

/-!
# Policy soundness

A policy is the caller's own, and every update that a batch returns keeps to it. `Policy.Allows` says what
that means for the instructions of an update, as they are read back from its expression. The bookkeeping
fields are the one thing that an update may do beyond the policy, and only where the policy asks for them.

A request is judged under the effective policy, so the judgement is first carried back to the policy of the
caller (`Request.allows_instructions`). Compilation keeps the instructions as they are, and a batch returns
nothing but what it compiled.
-/

namespace Amend

/-- A policy allows what an update does to the fields of a record. -/
structure Policy.Allows {α : Type} (p : Policy α) (is : List Instruction) : Prop where
  /-- An instruction writes a bookkeeping field that is kept, or the rule for its action permits its
  field. -/
  permitted : ∀ i ∈ is, (i.field, i.action) ∈ p.autoFields ∨
    ∃ rule, p.ruleFor i.action = some rule ∧ rule.Permits i.field
  /-- An action that is used is used on all of its mandatory fields. -/
  mandatory : ∀ i ∈ is, ∀ rule, p.ruleFor i.action = some rule → ∀ s, rule.mandatory = some s →
    ∀ f ∈ s, ∃ j ∈ is, j.action = i.action ∧ j.field = f
  /-- No field is touched twice. -/
  distinct : (is.map Instruction.field).Nodup
  numbers : ∀ f a, .increment f a ∈ is → a.isNumber = true
  lists : ∀ f a, .append f a ∈ is → a.isList = true

/-! ## Values -/

/-- A number is encoded as a number. -/
theorem Value.isNumber_toAttribute {v : Value} (h : v.isNumber = true) :
    v.toAttribute.isNumber = true := by
  cases v with
  | number n => rfl
  | _ => cases h

/-- A sequence is encoded as a list. -/
theorem Value.isList_toAttribute {v : Value} (h : v.isSequence = true) : v.toAttribute.isList = true := by
  cases v with
  | sequence items => rfl
  | _ => cases h

/-! ## Requests -/

/-- What conforms to the effective policy is allowed by the policy itself. -/
theorem Request.allows_instructions {α : Type} {r : Request} {p : Policy α}
    (h : r.Conforms p.effective) : p.Allows r.instructions := by
  -- an action that is used touches a field, so there is a rule for it that accepts its fields
  have haccepts : ∀ i ∈ r.instructions, ∃ rule, p.effective.ruleFor i.action = some rule ∧
      rule.Accepts (r.fields.under i.action) := by
    intro i hi
    have hmem : i.field ∈ r.fields.under i.action := mem_under_iff.2 ⟨i, hi, rfl, rfl⟩
    exact h.accepted i.action (List.ne_nil_of_mem hmem)
  constructor
  · intro i hi
    obtain ⟨rule, hrule, haccept⟩ := haccepts i hi
    exact Policy.permits_of_effective hrule
      (haccept.permitted i.field (mem_under_iff.2 ⟨i, hi, rfl, rfl⟩))
  · intro i hi rule hrule s hs f hf
    obtain ⟨new, hnew, hmandatory⟩ := Policy.mandatory_effective hrule
    obtain ⟨rule', hrule', haccept⟩ := haccepts i hi
    obtain rfl := Option.some.inj (hnew.symm.trans hrule')
    exact mem_under_iff.1 (haccept.mandatory s (hmandatory.trans hs) f hf)
  · exact nodup_field_instructions h.distinct
  · intro f a hmem
    rcases mem_instructions.1 hmem with ⟨e, he, heq⟩ | ⟨e, he, heq⟩ | ⟨e, he, heq⟩ | ⟨g, hg, heq⟩ <;>
      cases heq
    exact Value.isNumber_toAttribute (h.numbers e he)
  · intro f a hmem
    rcases mem_instructions.1 hmem with ⟨e, he, heq⟩ | ⟨e, he, heq⟩ | ⟨e, he, heq⟩ | ⟨g, hg, heq⟩ <;>
      cases heq
    exact Value.isList_toAttribute (h.sequences e he)

/-! ## Batches -/

/-- Whatever a batch returns, every update in it can be read back, and does only what the policy of the
caller allows. -/
theorem compileBatch_allows {table requests policy : Payload} {clock : Moment} {c : Counters}
    {p : Policy Payload} {res : BatchResult} (hpolicy : Policy.ofPayload policy = .ok p)
    (hres : (compileBatch table requests policy clock c).result = .ok res) {u : Update}
    (hu : u ∈ res.operations) : ∃ is, u.instructions? = some is ∧ p.Allows is := by
  obtain ⟨t, stamp, raw, hraw⟩ := exists_outcomeOf_of_mem_operations hpolicy hres hu
  cases hread : Request.ofPayload raw with
  | error e =>
    rw [outcomeOf_of_error hread] at hraw
    cases hraw
  | ok r =>
    have hcompile := (outcomeOf_of_ofPayload hread).symm.trans hraw
    obtain ⟨hjudge, -⟩ := Request.compile_eq_ok_iff.1 hcompile
    exact ⟨_, (Request.instructions?_of_compile hcompile).1,
      Request.allows_instructions (Request.conforms_of_judge hjudge)⟩

/-- The help desk returns an update, and it keeps to the policy of the desk. -/
theorem compileBatch_allows_desk :
    ∃ res u is, (compileBatch (.text "cases") (.list deskRequests) (.policy (deskPolicy false)) deskClock
        .zero).result = .ok res ∧ u ∈ res.operations ∧ u.instructions? = some is ∧
      (deskPolicy false).Allows is := by
  have hsome : ((compileBatch (.text "cases") (.list deskRequests) (.policy (deskPolicy false)) deskClock
      .zero).result.toOption.any fun res => !res.operations.isEmpty) = true := by
    decide +kernel
  cases hres : (compileBatch (.text "cases") (.list deskRequests) (.policy (deskPolicy false)) deskClock
      .zero).result with
  | error e =>
    rw [hres] at hsome
    cases hsome
  | ok res =>
    rw [hres] at hsome
    obtain ⟨u, hu⟩ : ∃ u, u ∈ res.operations := by
      rw [← List.isEmpty_eq_false_iff_exists_mem, ← Bool.not_eq_true']
      exact hsome
    have hpolicy : Policy.ofPayload (.policy (deskPolicy false)) = .ok (deskPolicy false) := rfl
    obtain ⟨is, his, hallows⟩ := compileBatch_allows hpolicy hres hu
    exact ⟨res, u, is, rfl, hu, his, hallows⟩

end Amend
