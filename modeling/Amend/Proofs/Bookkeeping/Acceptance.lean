import Amend.Proofs.Bookkeeping.Injection
import Amend.Proofs.Policy.Widening
import Amend.Proofs.Update

/-!
# Bookkeeping for accepted requests

A request that a policy accepts should still be accepted once the policy keeps bookkeeping fields, and then do
what it did and the bookkeeping besides. It is and does (`Request.compile_withAutoFields_iff`), but for one
thing. An action that only bookkeeping uses counts as used, so the rule for it demands its mandatory fields,
which the request had no reason to name (`Request.compile_withAutoFields_untidy`). `Policy.Spares` says that a
rule does not do that.
-/

namespace Amend

namespace Policy

variable {α : Type}

/-- A policy with other switches for the two bookkeeping fields. -/
def keeping (p : Policy α) (timed counted : Bool) : Policy α :=
  { p with autoTimestamp := timed, autoVersion := counted }

/-- Where an action touches no fields of its own and writes a bookkeeping field, the rule for it demands no
other field. -/
def Spares (p : Policy α) (a : Action) (fields : List String) : Prop :=
  ∀ f, p.autoField? a = some f → fields = [] →
    ∀ rule, p.ruleFor a = some rule → ∀ s, rule.mandatory = some s → ∀ g ∈ s, g = f

/-- Fields that a policy accepts are accepted together with a bookkeeping field, as far as the rule spares
it. -/
theorem accepts_effective_iff {p : Policy α} {a : Action} {fields : List String}
    (h : p.Accepts a fields) :
    p.effective.Accepts a (fields ++ (p.autoField? a).toList) ↔ p.Spares a fields := by
  unfold Spares
  cases hauto : p.autoField? a with
  | none =>
    have hrule : p.effective.ruleFor a = p.ruleFor a := by rw [ruleFor_effective, hauto]
    rw [Accepts, hrule, Option.toList_none, List.append_nil]
    refine iff_of_true h ?_
    intro f hf
    cases hf
  | some f =>
    have hrule : p.effective.ruleFor a = some (((p.ruleFor a).getD .nothing).allowing f) := by
      rw [ruleFor_effective, hauto]
    rw [Accepts, hrule, Option.toList_some]
    constructor
    · intro haccepts g hg hfields rule hold s hs name hname
      obtain rfl := Option.some.inj hg
      obtain ⟨new, hnew, haccept⟩ := haccepts (by simp)
      obtain rfl := Option.some.inj hnew
      rw [hold] at haccept
      have hmem := haccept.mandatory s hs name hname
      rw [hfields] at hmem
      exact List.mem_singleton.1 hmem
    · intro hspares _
      refine ⟨_, rfl, ?_, ?_⟩
      · intro g hg
        rw [FieldRule.permits_allowing_iff]
        rcases List.mem_append.1 hg with hg | hg
        · obtain ⟨rule, hold, haccept⟩ := h (List.ne_nil_of_mem hg)
          rw [hold]
          exact Or.inr (haccept.permitted g hg)
        · exact Or.inl (List.mem_singleton.1 hg)
      · intro s hs g hg
        rw [FieldRule.mandatory_allowing] at hs
        cases hold : p.ruleFor a with
        | none =>
          rw [hold] at hs
          cases hs
        | some rule =>
          rw [hold] at hs
          by_cases hfields : fields = []
          · rw [hspares f rfl hfields rule hold s hs g hg]
            simp
          · obtain ⟨rule', hrule', haccept⟩ := h hfields
            obtain rfl := Option.some.inj (hold.symm.trans hrule')
            exact List.mem_append_left _ (haccept.mandatory s hs g hg)

end Policy

namespace Request

section NewFields

variable {α : Type} {r : Request} (htime : Policy.timestampField ∉ r.fields.all)
  (hcount : Policy.versionField ∉ r.fields.all) (p : Policy α) (stamp : String)
include htime hcount

/-- Writing the bookkeeping fields adds each of them to the fields of the action that writes it. -/
theorem under_withAutoFields (a : Action) :
    (r.withAutoFields p stamp).fields.under a = r.fields.under a ++ (p.autoField? a).toList := by
  have hdropped := withoutAutoFields_of_not_mem p htime hcount
  cases a with
  | assign =>
    show (r.withAutoFields p stamp).assign.keys = r.assign.keys ++ _
    rw [OrderedMap.keys, assign_withAutoFields, hdropped, List.map_append]
    unfold Policy.timeEntries Policy.autoField?
    cases p.autoTimestamp <;> rfl
  | remove =>
    show (r.withAutoFields p stamp).remove = r.remove ++ []
    rw [remove_withAutoFields, hdropped, List.append_nil]
  | increment =>
    show (r.withAutoFields p stamp).increment.keys = r.increment.keys ++ _
    rw [OrderedMap.keys, increment_withAutoFields, hdropped, List.map_append]
    unfold Policy.countEntries Policy.autoField?
    cases p.autoVersion <;> rfl
  | append =>
    show (r.withAutoFields p stamp).append.keys = r.append.keys ++ []
    rw [append_withAutoFields, hdropped, List.append_nil]

/-- A request that names no field twice names none twice with its bookkeeping fields. -/
theorem nodup_all_withAutoFields (h : r.fields.all.Nodup) :
    (r.withAutoFields p stamp).fields.all.Nodup := by
  have hperm := (instructions_withAutoFields r p stamp).map Instruction.field
  rw [withoutAutoFields_of_not_mem p htime hcount, List.map_append] at hperm
  rw [← (Expression.perm_all _).nodup_iff, ← map_field_instructions, hperm.nodup_iff, List.nodup_append]
  refine ⟨nodup_field_instructions h, p.nodup_autoInstructions stamp, ?_⟩
  rintro f hf g hg rfl
  rw [map_field_instructions] at hf
  have hmem := (Expression.perm_all r).subset hf
  unfold Policy.autoInstructions Policy.timeEntries Policy.countEntries at hg
  cases htimed : p.autoTimestamp <;> cases hcounted : p.autoVersion <;>
    simp [htimed, hcounted, Instruction.field] at hg <;> grind

/-- A request that names a field still does so with its bookkeeping fields. -/
theorem isEmpty_withAutoFields (h : r.fields.isEmpty = false) :
    (r.withAutoFields p stamp).fields.isEmpty = false := by
  rw [Fields.isEmpty, List.isEmpty_eq_false_iff_exists_mem] at h ⊢
  obtain ⟨f, hf⟩ := h
  obtain ⟨a, ha, hmem⟩ := List.mem_flatMap.1 hf
  refine ⟨f, List.mem_flatMap.2 ⟨a, ha, ?_⟩⟩
  rw [under_withAutoFields htime hcount]
  exact List.mem_append_left _ hmem

/-- A request that conforms to a policy conforms with its bookkeeping fields, as far as the rules spare
these. -/
theorem conforms_withAutoFields_iff (h : r.Conforms p) :
    (r.withAutoFields p stamp).Conforms p.effective ↔ ∀ a, p.Spares a (r.fields.under a) := by
  have hdropped := withoutAutoFields_of_not_mem p htime hcount
  have haccepts : ∀ a, p.effective.Accepts a ((r.withAutoFields p stamp).fields.under a) ↔
      p.Spares a (r.fields.under a) := by
    intro a
    rw [under_withAutoFields htime hcount]
    exact Policy.accepts_effective_iff (h.accepted a)
  constructor
  · intro hconforms a
    exact (haccepts a).1 (hconforms.accepted a)
  · intro hspares
    constructor
    · exact fun a => (haccepts a).2 (hspares a)
    · exact nodup_all_withAutoFields htime hcount p stamp h.distinct
    · intro e he
      rw [increment_withAutoFields, hdropped, List.mem_append] at he
      rcases he with he | he
      · exact h.numbers e he
      · unfold Policy.countEntries at he
        split at he
        · obtain rfl := List.mem_singleton.1 he
          rfl
        · cases he
    · rw [append_withAutoFields, hdropped]
      exact h.sequences

end NewFields

/-- The time of the update passes, where there are no checks on it. -/
theorem checkAssigned_withAutoFields {p : Policy Payload} {r : Request} (stamp : String)
    (hfree : p.checksFor Policy.timestampField = [])
    (h : checkAssigned p (r.withoutAutoFields p).assign.entries = .ok ()) :
    checkAssigned p (r.withAutoFields p stamp).assign.entries = .ok () := by
  rw [assign_withAutoFields, checkAssigned_append, h]
  unfold Policy.timeEntries
  cases p.autoTimestamp with
  | false => rfl
  | true =>
    show (runChecks _ _ (p.checksFor Policy.timestampField) >>= fun _ => checkAssigned p []) = _
    rw [hfree]
    rfl

/-- A request that is accepted under a policy, and that names no bookkeeping field, is accepted under the same
policy with bookkeeping exactly if the rules spare the bookkeeping fields. The update then does what the request
does and the bookkeeping, and nothing else. -/
theorem compile_withAutoFields_iff {p q : Policy Payload} {timed counted : Bool}
    (hq : q = p.keeping timed counted)
    (hfree : p.checksFor Policy.timestampField = []) {r : Request}
    (htime : Policy.timestampField ∉ r.fields.all) (hcount : Policy.versionField ∉ r.fields.all)
    {table : String} {u : Update} (h : r.compile table p = .ok u) (stamp : String) :
    ((∃ v, (r.withAutoFields q.effective stamp).compile table q.effective = .ok v) ↔
        ∀ a, q.Spares a (r.fields.under a)) ∧
      ∀ v, (r.withAutoFields q.effective stamp).compile table q.effective = .ok v →
        ∃ is js, u.instructions? = some is ∧ v.instructions? = some js ∧
          js.Perm (is ++ q.autoInstructions stamp) := by
  -- the switches do not matter to a request as it is
  have hcompile : r.compile table q = .ok u := by
    rw [← h, hq]
    apply compile_congr <;> rfl
  have hdropped := withoutAutoFields_of_not_mem q htime hcount
  obtain ⟨hjudge, hfields, key, hkey, -⟩ := compile_eq_ok_iff.1 hcompile
  obtain ⟨hconforms, hchecked⟩ := judge_eq_ok_iff.1 hjudge
  refine ⟨?_, fun v hv => ?_⟩
  · rw [← conforms_withAutoFields_iff htime hcount q stamp hconforms]
    constructor
    · rintro ⟨v, hv⟩
      exact conforms_of_judge (compile_eq_ok_iff.1 hv).1
    · intro hwritten
      refine ⟨_, compile_eq_ok_iff.2 ⟨judge_eq_ok_iff.2 ⟨hwritten, ?_⟩, ?_, key, ?_, rfl⟩⟩
      · refine (checkAssigned_congr (p := q.effective) (q := q) rfl _).trans ?_
        refine checkAssigned_withAutoFields stamp ?_ (by rw [hdropped, hchecked])
        rw [hq]
        exact hfree
      · exact isEmpty_withAutoFields htime hcount q stamp hfields
      · exact (congrArg Key.toAttributes (key_withAutoFields r q stamp)).trans hkey
  · refine ⟨_, _, (instructions?_of_compile hcompile).1, (instructions?_of_compile hv).1, ?_⟩
    have hperm := instructions_withAutoFields r q stamp
    rw [hdropped] at hperm
    exact hperm

/-! ## Two requests -/

/-- A policy under which the status of a case may be set, and has to be if anything is; and under which fields
may be removed. -/
def statusPolicy : Policy Payload where
  rules := .ofList [(.assign, ⟨false, some (.ofList ["status"]), none, some (.ofList ["status"])⟩),
    (.remove, .everything)]
  autoTimestamp := false
  autoVersion := false
  failOnError := true
  checks := none

/-- The case is closed under the policy with bookkeeping as well, although no rule permits increments: the
status is set, and so are the time and the count. -/
theorem compile_withAutoFields_closing :
    ∃ v js, (closing.withAutoFields (statusPolicy.keeping true true).effective "2024").compile "cases"
        (statusPolicy.keeping true true).effective = .ok v ∧ v.instructions? = some js ∧
      js.Perm [.assign "status" (.text "closed"), .assign "lastUpdated" (.text "2024"),
        .increment "version" (.number "1")] := by
  have hu : closing.compile "cases" statusPolicy =
      .ok (closing.update "cases" (.ofList [("pk", .text "case"), ("sk", .number "1")])) := by
    rfl
  obtain ⟨haccepts, hdoes⟩ := compile_withAutoFields_iff (q := statusPolicy.keeping true true) rfl rfl
    (by decide) (by decide) hu "2024"
  obtain ⟨v, hv⟩ := haccepts.2 (by
    -- the status is set, and there is no rule that could demand anything of an increment
    intro a f hf hfields rule hrule
    cases a with
    | assign => cases hfields
    | remove | append => cases hf
    | increment => cases hrule)
  obtain ⟨is, js, his, hjs, hperm⟩ := hdoes v hv
  refine ⟨v, js, hv, hjs, ?_⟩
  obtain rfl := Option.some.inj (his.symm.trans (instructions?_of_compile hu).1)
  exact hperm

/-- A request to tidy up the case. -/
def tidying : Request where
  key := caseKey
  assign := .empty
  remove := ["draft"]
  increment := .empty
  append := .empty
  named := by decide

/-- A request that assigns nothing is accepted, but not with the time of the update: that is an assignment, so
the status is missing. -/
theorem compile_withAutoFields_untidy :
    (∃ u, tidying.compile "cases" statusPolicy = .ok u) ∧
      (tidying.withAutoFields (statusPolicy.keeping true false).effective "2024").compile "cases"
        (statusPolicy.keeping true false).effective = .error (.refused (.missingMandatory "status" .assign)) :=
  ⟨⟨tidying.update "cases" (.ofList [("pk", .text "case"), ("sk", .number "1")]), rfl⟩, rfl⟩

end Request

end Amend
