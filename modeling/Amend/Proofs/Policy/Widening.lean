import Amend.Policy.Basic

/-!
# What widening a policy changes

Before a request is judged, its policy is widened by the bookkeeping fields. Whatever the widened policy
permits was permitted before or is a bookkeeping field under the action that writes it
(`Policy.permits_of_effective`), and what a rule demanded it still demands (`Policy.mandatory_effective`).

Both are proved for a list of fields and actions, one after another; a step permits one field for one
action, and a rule that was not there counts as one that permits nothing. No action writes both bookkeeping
fields, so the rules of the widened policy can also be given one by one (`Policy.ruleFor_effective`).
-/

namespace Amend

/-! ## One field for one rule -/

/-- The rule that permits nothing permits no field. -/
theorem FieldRule.not_permits_nothing (f : String) : ¬ FieldRule.nothing.Permits f := by
  rintro (h | ⟨h | h, -⟩) <;> cases h

/-- A rule that permits one more field permits nothing but that field and what it permitted. -/
theorem FieldRule.permits_of_allowing {r : FieldRule} {field f : String}
    (h : (r.allowing field).Permits f) : f = field ∨ r.Permits f := by
  by_cases hf : f = field
  · exact Or.inl hf
  · right
    rcases h with hall | ⟨-, hwhite, hblack⟩
    · exact Or.inl hall
    · by_cases hgrants : r.grantsAnything = true
      · by_cases hall : r.allowAll = true
        · exact Or.inl hall
        · have hlisted : r.whitelist.isSome = true ∨ r.blacklist.isSome = true := by
            simpa [grantsAnything, hall] using hgrants
          refine Or.inr ⟨hlisted, fun s hs => ?_, fun s hs => ?_⟩
          · have hmem : f ∈ s.insert field := hwhite _ (by simp [allowing, hs])
            exact (FieldSet.mem_insert.1 hmem).resolve_left hf
          · have hmem : f ∉ s.erase field := hblack _ (by simp [allowing, hs])
            exact fun hs => hmem (FieldSet.mem_erase.2 ⟨hs, hf⟩)
      · -- a rule that granted nothing now has the field alone on its whitelist
        have hnone : r.whitelist = none := by
          simp only [grantsAnything, Bool.or_eq_true, not_or, Bool.not_eq_true,
            Option.isSome_eq_false_iff, Option.isNone_iff_eq_none] at hgrants
          exact hgrants.1.2
        have hmem : f ∈ FieldSet.empty.insert field := hwhite _ (by simp [allowing, hnone, hgrants])
        exact absurd ((FieldSet.mem_insert.1 hmem).resolve_left hf) (FieldSet.not_mem_empty f)

/-- A rule that permits one more field permits that field and what it permitted. -/
theorem FieldRule.permits_allowing {r : FieldRule} {field f : String} (h : f = field ∨ r.Permits f) :
    (r.allowing field).Permits f := by
  by_cases hall : r.allowAll = true
  · exact Or.inl hall
  · have hlists := h.imp_right fun hf => hf.resolve_left hall
    refine Or.inr ⟨?_, fun s hs => ?_, fun s hs => ?_⟩
    · cases hwhite : r.whitelist <;> cases hblack : r.blacklist <;>
        simp [allowing, grantsAnything, hall, hwhite, hblack]
    · cases hwhite : r.whitelist with
      | some w =>
        obtain rfl : w.insert field = s := by simpa [allowing, hwhite] using hs
        exact FieldSet.mem_insert.2 (hlists.imp_right fun hf => hf.2.1 w hwhite)
      | none =>
        -- the rule has got a whitelist because it granted nothing, so it permitted nothing
        by_cases hgrants : r.grantsAnything = true
        · simp [allowing, hwhite, hgrants] at hs
        · obtain rfl : FieldSet.empty.insert field = s := by simpa [allowing, hwhite, hgrants] using hs
          refine FieldSet.mem_insert.2 (hlists.imp_right fun hf => absurd ?_ hgrants)
          rcases hf.1 with hf | hf <;> simp [grantsAnything, hf]
    · obtain ⟨b, hb, rfl⟩ := Option.map_eq_some_iff.1 hs
      rw [FieldSet.mem_erase]
      rintro ⟨hmem, hne⟩
      exact (hlists.resolve_left hne).2.2 b hb hmem

/-- A rule that permits one more field permits that field and what it permitted, and nothing else. -/
theorem FieldRule.permits_allowing_iff {r : FieldRule} {field f : String} :
    (r.allowing field).Permits f ↔ f = field ∨ r.Permits f :=
  ⟨permits_of_allowing, permits_allowing⟩

namespace Policy

/-! ## Many fields -/

variable {rules : OrderedMap Action FieldRule} {es : List (String × Action)} {a : Action}

/-- Rules that permit some more fields permit nothing but those and what they permitted. -/
theorem permits_of_foldl_permitting {rule : FieldRule} {f : String}
    (hrule : (es.foldl (fun rules e => permitting rules e.1 e.2) rules).get? a = some rule)
    (hf : rule.Permits f) : (f, a) ∈ es ∨ ∃ old, rules.get? a = some old ∧ old.Permits f := by
  induction es generalizing rules with
  | nil => exact Or.inr ⟨rule, hrule, hf⟩
  | cons e rest ih =>
    rcases ih hrule with hmem | ⟨old, hold, hpermits⟩
    · exact Or.inl (List.mem_cons_of_mem _ hmem)
    · change (permitting rules e.1 e.2).get? a = some old at hold
      rw [permitting, OrderedMap.get?_insert] at hold
      split at hold
      · rename_i ha
        obtain rfl := Option.some.inj hold
        rcases FieldRule.permits_of_allowing hpermits with rfl | hpermits
        · exact Or.inl (by rw [← ha]; exact List.mem_cons_self)
        · right
          cases hget : rules.get? e.2 with
          | none =>
            rw [hget] at hpermits
            exact absurd hpermits (FieldRule.not_permits_nothing f)
          | some before =>
            rw [hget] at hpermits
            exact ⟨before, by rw [← ha, hget], hpermits⟩
      · exact Or.inr ⟨old, hold, hpermits⟩

/-- Rules that permit some more fields demand what they demanded. -/
theorem mandatory_foldl_permitting {rule : FieldRule} (hrule : rules.get? a = some rule) :
    ∃ new, (es.foldl (fun rules e => permitting rules e.1 e.2) rules).get? a = some new ∧
      new.mandatory = rule.mandatory := by
  induction es generalizing rules rule with
  | nil => exact ⟨rule, hrule, rfl⟩
  | cons e rest ih =>
    rw [List.foldl_cons]
    by_cases ha : e.2 = a
    · have hstep : (permitting rules e.1 e.2).get? a = some (rule.allowing e.1) := by
        rw [permitting, OrderedMap.get?_insert, if_pos ha, ha, hrule]
        rfl
      obtain ⟨new, hnew, hmandatory⟩ := ih hstep
      exact ⟨new, hnew, hmandatory.trans (FieldRule.mandatory_allowing rule e.1)⟩
    · have hstep : (permitting rules e.1 e.2).get? a = some rule := by
        rw [permitting, OrderedMap.get?_insert, if_neg ha, hrule]
      exact ih hstep

/-! ## The effective policy -/

variable {α : Type} {p : Policy α}

/-- The effective policy permits nothing but bookkeeping fields and what the policy permits. -/
theorem permits_of_effective {rule : FieldRule} {f : String} (hrule : p.effective.ruleFor a = some rule)
    (hf : rule.Permits f) : (f, a) ∈ p.autoFields ∨ ∃ old, p.ruleFor a = some old ∧ old.Permits f :=
  permits_of_foldl_permitting hrule hf

/-- The effective policy demands what the policy demands. -/
theorem mandatory_effective {rule : FieldRule} (hrule : p.ruleFor a = some rule) :
    ∃ new, p.effective.ruleFor a = some new ∧ new.mandatory = rule.mandatory :=
  mandatory_foldl_permitting hrule

/-- The bookkeeping field that an action writes, if a policy keeps it. -/
def autoField? (p : Policy α) : Action → Option String
  | .assign => if p.autoTimestamp then some timestampField else none
  | .increment => if p.autoVersion then some versionField else none
  | .remove | .append => none

/-- The effective rule for an action is that of the policy, and permits the bookkeeping field which the
action writes as well. -/
theorem ruleFor_effective (p : Policy α) (a : Action) :
    p.effective.ruleFor a = match p.autoField? a with
      | some f => some (((p.ruleFor a).getD .nothing).allowing f)
      | none => p.ruleFor a := by
  unfold effective autoFields autoField? ruleFor
  cases p.autoTimestamp <;> cases p.autoVersion <;> cases a <;> simp [permitting]

end Policy

end Amend
