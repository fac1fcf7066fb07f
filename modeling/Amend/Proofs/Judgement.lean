import Amend.Judgement
import Mathlib.Data.List.Nodup

/-!
# What a judgement decides

A judgement looks for the first thing that is wrong with a request. Here is what it is for a request to
have nothing wrong with it: `FieldRule.Accepts` for the use of one action under its rule, and
`Request.Conforms` for a whole request under a policy. Each search finds nothing exactly if its condition
holds, and so a request is not rejected exactly if it conforms (`Request.rejection?_eq_none_iff`), whatever
comes first among the things that could be wrong.
-/

namespace Amend

/-! ## Rules -/

/-- A rule accepts the fields that an action touches: it permits each of them, and none is missing. -/
structure FieldRule.Accepts (r : FieldRule) (fields : List String) : Prop where
  permitted : ∀ f ∈ fields, r.Permits f
  mandatory : ∀ s, r.mandatory = some s → ∀ f ∈ s, f ∈ fields

/-- Every name is in a whitelist exactly if none is found outside. -/
theorem outsideWhitelist?_eq_none_iff {s : FieldSet} {fields : List String} :
    outsideWhitelist? s fields = none ↔ ∀ f ∈ fields, f ∈ s := by
  simp [outsideWhitelist?]

/-- No name is in a blacklist exactly if none is found inside. -/
theorem insideBlacklist?_eq_none_iff {s : FieldSet} {fields : List String} :
    insideBlacklist? s fields = none ↔ ∀ f ∈ fields, f ∉ s := by
  simp [insideBlacklist?]

/-- Every mandatory field is named exactly if none is found missing. -/
theorem missingField?_eq_none_iff {s : FieldSet} {fields : List String} :
    missingField? s fields = none ↔ ∀ f ∈ s, f ∈ fields := by
  rw [missingField?, List.find?_eq_none]
  simp only [Bool.not_eq_true, Bool.not_eq_false', List.contains_iff_mem]
  exact Iff.rfl

/-- A rule has nothing against the fields that an action touches exactly if it accepts them. A rule that
grants nothing is asked for apart. -/
theorem FieldRule.rejection?_eq_none_iff {r : FieldRule} {a : Action} {fields : List String}
    (hfields : fields ≠ []) :
    r.grantsAnything = true ∧ r.rejection? a fields = none ↔ r.Accepts fields := by
  have hmandatory : (r.mandatory.bind fun s => missingField? s fields) = none ↔
      ∀ s, r.mandatory = some s → ∀ f ∈ s, f ∈ fields := by
    simp only [Option.bind_eq_none_iff, missingField?_eq_none_iff]
  rw [rejection?, Option.or_eq_none_iff, Option.map_eq_none_iff, hmandatory]
  by_cases hall : r.allowAll = true
  · -- both lists are ignored
    have hgrants : r.grantsAnything = true := by simp [grantsAnything, hall]
    rw [if_pos hall]
    constructor
    · rintro ⟨-, -, h⟩
      exact ⟨fun _ _ => Or.inl hall, h⟩
    · intro h
      exact ⟨hgrants, rfl, h.mandatory⟩
  · have hgrants : r.grantsAnything = true ↔ r.whitelist.isSome = true ∨ r.blacklist.isSome = true := by
      simp [grantsAnything, hall]
    rw [if_neg hall, hgrants, Option.or_eq_none_iff, Option.map_eq_none_iff, Option.map_eq_none_iff,
      Option.bind_eq_none_iff, Option.bind_eq_none_iff]
    simp only [outsideWhitelist?_eq_none_iff, insideBlacklist?_eq_none_iff]
    constructor
    · rintro ⟨hlisted, ⟨hwhite, hblack⟩, h⟩
      refine ⟨fun f hf => Or.inr ⟨hlisted, fun s hs => hwhite s hs f hf, fun s hs => hblack s hs f hf⟩, h⟩
    · intro h
      have hlists := fun f hf => (h.permitted f hf).resolve_left hall
      obtain ⟨f, hf⟩ := List.exists_mem_of_ne_nil fields hfields
      exact ⟨(hlists f hf).1, ⟨fun s hs g hg => (hlists g hg).2.1 s hs,
        fun s hs g hg => (hlists g hg).2.2 s hs⟩, h.mandatory⟩

/-! ## Actions -/

variable {α : Type}

/-- A policy accepts the fields that an action touches: there are none, or there is a rule that does. -/
def Policy.Accepts (p : Policy α) (a : Action) (fields : List String) : Prop :=
  fields ≠ [] → ∃ rule, p.ruleFor a = some rule ∧ rule.Accepts fields

/-- A policy has nothing against the use of an action exactly if it accepts the fields. -/
theorem Policy.rejection?_eq_none_iff {p : Policy α} {a : Action} {fields : List String} :
    p.rejection? a fields = none ↔ p.Accepts a fields := by
  by_cases hfields : fields = []
  · subst hfields
    exact iff_of_true rfl fun h => absurd rfl h
  · rw [Accepts, rejection?, if_neg (by simpa using hfields)]
    cases hrule : p.ruleFor a with
    | none => simp [hfields]
    | some rule =>
      have haccepts := FieldRule.rejection?_eq_none_iff (r := rule) (a := a) hfields
      by_cases hgrants : rule.grantsAnything = true
      · simp only [hgrants, true_and] at haccepts
        simpa [hgrants, hfields] using haccepts
      · have hrefuses : ¬ rule.Accepts fields := fun h => hgrants (haccepts.2 h).1
        simpa [hgrants, hfields] using hrefuses

/-! ## Requests -/

/-- A request has nothing wrong with it under a policy, its assigned values apart. -/
structure Request.Conforms (r : Request) (p : Policy α) : Prop where
  accepted : ∀ a, p.Accepts a (r.fields.under a)
  distinct : r.fields.all.Nodup
  numbers : ∀ e ∈ r.increment.entries, e.2.isNumber = true
  sequences : ∀ e ∈ r.append.entries, e.2.isSequence = true

/-- No name is repeated exactly if the names are distinct and none of them was seen before. -/
theorem repeated?_eq_none_iff {fields seen : List String} :
    repeated? seen fields = none ↔ fields.Nodup ∧ ∀ f ∈ fields, f ∉ seen := by
  induction fields generalizing seen with
  | nil => simp [repeated?]
  | cons f rest ih =>
    rw [repeated?]
    split
    · rename_i hseen
      have hmem : f ∈ seen := List.contains_iff_mem.1 hseen
      exact iff_of_false nofun fun h => h.2 f List.mem_cons_self hmem
    · rename_i hseen
      have hmem : f ∉ seen := fun h => hseen (List.contains_iff_mem.2 h)
      rw [ih, List.nodup_cons, List.forall_mem_cons]
      simp only [List.mem_cons, not_or]
      constructor
      · rintro ⟨hnodup, hrest⟩
        exact ⟨⟨fun h => (hrest f h).1 rfl, hnodup⟩, hmem, fun g hg => (hrest g hg).2⟩
      · rintro ⟨⟨hnew, hnodup⟩, -, hrest⟩
        refine ⟨hnodup, fun g hg => ⟨?_, hrest g hg⟩⟩
        rintro rfl
        exact hnew hg

/-- Every value passes a test exactly if none is found to fail it. -/
theorem firstFailing?_eq_none_iff {test : Value → Bool} {bucket : NameMap Value} :
    firstFailing? test bucket = none ↔ ∀ e ∈ bucket.entries, test e.2 = true := by
  simp [firstFailing?]

/-- A request is not rejected exactly if it conforms. -/
theorem Request.rejection?_eq_none_iff {r : Request} {p : Policy α} :
    r.rejection? p = none ↔ r.Conforms p := by
  simp only [rejection?, Option.or_eq_none_iff, Option.map_eq_none_iff, List.findSome?_eq_none_iff,
    Policy.rejection?_eq_none_iff, repeated?_eq_none_iff, firstFailing?_eq_none_iff]
  constructor
  · rintro ⟨haccepted, ⟨hdistinct, -⟩, hnumbers, hsequences⟩
    refine ⟨fun a => haccepted a ?_, hdistinct, hnumbers, hsequences⟩
    cases a <;> decide
  · rintro ⟨haccepted, hdistinct, hnumbers, hsequences⟩
    exact ⟨fun a _ => haccepted a, ⟨hdistinct, fun f _ => List.not_mem_nil⟩, hnumbers, hsequences⟩

/-! ## Judgements -/

/-- A judgement is in favour of a request exactly if the request conforms and its assigned values pass their
checks. -/
theorem Request.judge_eq_ok_iff {r : Request} {p : Policy Payload} :
    r.judge p = .ok () ↔ r.Conforms p ∧ checkAssigned p r.assign.entries = .ok () := by
  rw [judge, ← rejection?_eq_none_iff]
  cases r.rejection? p with
  | some rejection => exact iff_of_false nofun (fun h => nomatch h.1)
  | none => exact (and_iff_right rfl).symm

/-- A judgement in favour of a request finds that it conforms. -/
theorem Request.conforms_of_judge {r : Request} {p : Policy Payload} (h : r.judge p = .ok ()) :
    r.Conforms p :=
  (judge_eq_ok_iff.1 h).1

/-- What values are checked for depends on nothing in a policy but its checks. -/
theorem checkAssigned_congr {p q : Policy Payload} (h : p.checks = q.checks)
    (entries : List (String × Value)) : checkAssigned p entries = checkAssigned q entries := by
  induction entries with
  | nil => rfl
  | cons e rest ih => rw [checkAssigned, checkAssigned, ih, Policy.checksFor, h, Policy.checksFor]

/-- A judgement depends on nothing in a policy but its rules and its checks. -/
theorem Request.judge_congr {p q : Policy Payload} (hrules : p.rules = q.rules)
    (hchecks : p.checks = q.checks) (r : Request) : r.judge p = r.judge q := by
  have hrejection : r.rejection? p = r.rejection? q := by
    simp only [rejection?, Policy.rejection?, Policy.ruleFor, hrules]
  rw [judge, judge, hrejection, checkAssigned_congr hchecks]

/-- The values of two lists of entries are checked one list after the other. -/
theorem checkAssigned_append (p : Policy Payload) (front back : List (String × Value)) :
    checkAssigned p (front ++ back) = (checkAssigned p front >>= fun _ => checkAssigned p back) := by
  induction front with
  | nil => rfl
  | cons e rest ih => rw [List.cons_append, checkAssigned, checkAssigned, ih, bind_assoc]

end Amend
