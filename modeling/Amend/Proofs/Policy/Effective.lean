import Amend.Batch
import Amend.Proofs.Entries
import Amend.Proofs.Policy.Widening

/-!
# The effective policy is a fixed point

Widening a policy by its bookkeeping fields gives a policy that permits them already, and then there is nothing
left to widen: `effective_effective` says that the rules stay as they are, sets, order and all. So a caller may
pass the effective policy for its own, and a batch comes to the same (`effective_settles`).

What widening does to a rule is the same for every shape of rule. It permits one field more, and a rule that was
not there counts as the one that permits nothing.
-/

namespace Amend

/-- Permitting a field twice is permitting it once. -/
theorem FieldRule.allowing_allowing (r : FieldRule) (field : String) :
    (r.allowing field).allowing field = r.allowing field := by
  have hwhite : ∀ s : FieldSet, (s.insert field).insert field = s.insert field := fun s =>
    FieldSet.insert_of_mem (FieldSet.mem_insert.2 (.inl rfl))
  have hblack : ∀ s : FieldSet, (s.erase field).erase field = s.erase field := fun s =>
    FieldSet.erase_of_not_mem fun h => (FieldSet.mem_erase.1 h).2 rfl
  obtain ⟨allowAll, whitelist, blacklist, mandatory⟩ := r
  cases allowAll <;> cases whitelist <;> cases blacklist <;> simp [allowing, grantsAnything, hwhite, hblack]

namespace Policy

/-! ## Rules that permit a field already -/

/-- Where the rule of an action is one that was widened by a field, permitting the field changes nothing. -/
theorem permitting_of_allowing {rules : OrderedMap Action FieldRule} {a : Action} {f : String} {r : FieldRule}
    (h : rules.get? a = some (r.allowing f)) : permitting rules f a = rules := by
  rw [permitting, h, Option.getD_some, FieldRule.allowing_allowing, OrderedMap.insert_of_get? h]

variable {α : Type} {p : Policy α}

/-- A bookkeeping field is kept by a policy exactly if its action is said to write it. -/
theorem mem_autoFields_iff {f : String} {a : Action} : (f, a) ∈ p.autoFields ↔ p.autoField? a = some f := by
  unfold autoFields autoField?
  cases p.autoTimestamp <;> cases p.autoVersion <;> cases a <;> simp [eq_comm]

/-- The effective rule for the action of a bookkeeping field. -/
theorem ruleFor_effective_of_mem {f : String} {a : Action} (h : (f, a) ∈ p.autoFields) :
    p.effective.ruleFor a = some (((p.ruleFor a).getD .nothing).allowing f) := by
  rw [ruleFor_effective, mem_autoFields_iff.1 h]

/-- The effective rule for any other action is that of the policy. -/
theorem ruleFor_effective_of_not_mem {a : Action} (h : ∀ f, (f, a) ∉ p.autoFields) :
    p.effective.ruleFor a = p.ruleFor a := by
  have hnone : p.autoField? a = none :=
    Option.eq_none_iff_forall_ne_some.2 fun f hf => h f (mem_autoFields_iff.2 hf)
  rw [ruleFor_effective, hnone]

/-- Widening a policy twice is widening it once. -/
theorem effective_effective (p : Policy α) : p.effective.effective = p.effective := by
  have hfixed : ∀ es : List (String × Action), (∀ e ∈ es, e ∈ p.autoFields) →
      es.foldl (fun rules e => permitting rules e.1 e.2) p.effective.rules = p.effective.rules := by
    intro es
    induction es with
    | nil => exact fun _ => rfl
    | cons e rest ih =>
      intro h
      rw [List.foldl_cons, permitting_of_allowing (ruleFor_effective_of_mem (h e List.mem_cons_self))]
      exact ih fun e he => h e (List.mem_cons_of_mem _ he)
  have hrules : p.effective.effective.rules = p.effective.rules := hfixed p.autoFields fun _ he => he
  show { p.effective with rules := p.effective.effective.rules } = p.effective
  rw [hrules]

/-! ## Batches under the effective policy -/

/-- What is read of a batch depends on its policy through the effective one alone. -/
theorem read_congr {p q : Policy Payload} {policy other : Payload} (hp : Policy.ofPayload policy = .ok p)
    (hq : Policy.ofPayload other = .ok q) (h : p.effective = q.effective) (table requests : Payload)
    (clock : Moment) : Batch.read table requests policy clock = Batch.read table requests other clock := by
  have hbind : ∀ (r : Policy Payload) (f : Policy Payload → Except Failure Batch),
      ((Except.ok r).mapError Failure.ofPolicy >>= f) = f r := fun _ _ => rfl
  simp only [Batch.read, hp, hq, hbind, h]

/-- The effective policy of an accepted one is widened no further. It has the flags, the checks and all rules
of the policy, but that the action of a bookkeeping field has a rule which permits this field, and for the rest
permits and demands what it did. A batch comes to the same under either policy. -/
theorem effective_settles {p : Policy Payload} {policy : Payload} (h : Policy.ofPayload policy = .ok p) :
    p.effective.effective = p.effective ∧
      (p.effective.autoTimestamp = p.autoTimestamp ∧ p.effective.autoVersion = p.autoVersion ∧
        p.effective.failOnError = p.failOnError ∧ p.effective.checks = p.checks) ∧
      (∀ a, (∀ f, (f, a) ∉ p.autoFields) → p.effective.ruleFor a = p.ruleFor a) ∧
      (∀ field a, (field, a) ∈ p.autoFields → ∃ old new,
        old = (p.ruleFor a).getD .nothing ∧ p.effective.ruleFor a = some new ∧
          new.allowAll = old.allowAll ∧ new.mandatory = old.mandatory ∧
          ∀ f, new.Permits f ↔ f = field ∨ old.Permits f) ∧
      ∀ table requests clock c, compileBatch table requests policy clock c =
        compileBatch table requests (.policy p.effective) clock c := by
  refine ⟨effective_effective p, ⟨rfl, rfl, rfl, rfl⟩, fun a => ruleFor_effective_of_not_mem, ?_, ?_⟩
  · intro field a hfield
    exact ⟨_, _, rfl, ruleFor_effective_of_mem hfield, FieldRule.allowAll_allowing _ _,
      FieldRule.mandatory_allowing _ _, fun f => FieldRule.permits_allowing_iff⟩
  · intro table requests clock c
    have heffective : Policy.ofPayload (.policy p.effective) = .ok p.effective := rfl
    rw [compileBatch, compileBatch, read_congr h heffective (effective_effective p).symm]

/-! ## A policy that keeps both fields -/

/-- A policy that keeps both bookkeeping fields. The time may not be assigned by its own rules, and no rule
permits increments. -/
def reviewPolicy : Policy Payload where
  rules := .ofList [(.assign, ⟨false, some (.ofList ["status"]), some (.ofList ["lastUpdated"]),
    some (.ofList ["status"])⟩), (.remove, .everything)]
  autoTimestamp := true
  autoVersion := true
  failOnError := false
  checks := none

/-- The effective policy permits the time to be assigned and the count to be incremented besides what was
permitted, and a batch comes to the same under it. -/
theorem effective_settles_review : ∃ assign increment,
    reviewPolicy.effective.effective = reviewPolicy.effective ∧
      reviewPolicy.effective.ruleFor .assign = some assign ∧
      (∀ f, assign.Permits f ↔ f = "lastUpdated" ∨ f = "status") ∧
      reviewPolicy.effective.ruleFor .increment = some increment ∧
      (∀ f, increment.Permits f ↔ f = "version") ∧
      reviewPolicy.effective.ruleFor .remove = some .everything ∧
      ∀ table requests clock c, compileBatch table requests (.policy reviewPolicy) clock c =
        compileBatch table requests (.policy reviewPolicy.effective) clock c := by
  have hpolicy : Policy.ofPayload (.policy reviewPolicy) = .ok reviewPolicy := rfl
  have hstatus : ∀ f, ((reviewPolicy.ruleFor .assign).getD .nothing).Permits f ↔ f = "status" := by
    intro f
    constructor
    · rintro (hall | ⟨-, hwhite, -⟩)
      · cases hall
      · exact List.mem_singleton.1 (hwhite _ rfl)
    · rintro rfl
      refine .inr ⟨.inl rfl, ?_, ?_⟩
      · rintro s ⟨⟩
        decide
      · rintro s ⟨⟩
        decide
  obtain ⟨hfixed, -, hothers, hrules, hbatch⟩ := effective_settles hpolicy
  obtain ⟨_, assign, rfl, hassign, -, -, hassigns⟩ :=
    hrules timestampField .assign List.mem_cons_self
  obtain ⟨_, increment, rfl, hincrement, -, -, hincrements⟩ :=
    hrules versionField .increment (List.mem_cons_of_mem _ List.mem_cons_self)
  refine ⟨assign, increment, hfixed, hassign, fun f => ?_, hincrement, fun f => ?_, ?_, hbatch⟩
  · rw [hassigns, hstatus]
    rfl
  · rw [hincrements]
    exact or_iff_left (FieldRule.not_permits_nothing f)
  · exact hothers .remove fun f hf => by simp [mem_autoFields_iff, autoField?] at hf

end Policy

end Amend
