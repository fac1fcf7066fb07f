import Amend.Proofs.Judgement

/-!
# What is required of a request, in order

A policy requires many things of a request, and a request may lack several of them at once. Here they are
put down one by one, in the order in which they count: for each action that is used, what its rule asks of
its fields; then that no name comes twice; then the kinds of the values that are added and appended; and
then the checks on the assigned values. `Requirement.Met` says what it is to meet a requirement, and
`Requirement.Answer` what a request is answered that does not.

A judgement is in favour of a request exactly if the request meets them all, and otherwise it is the answer
to the first one that the request does not meet (`Request.judge_firstUnmet`). For the proof, every search
that a judgement is made of settles a stretch of the list (`Settles`), and what settles two stretches one
after the other settles both (`Settles.append`).
-/

namespace Amend

/-! ## Requirements -/

/-- One thing that is required of a request. -/
inductive Requirement where
  /-- There is a rule for an action that is used, and it grants something. -/
  | granted (a : Action)
  /-- A field may be touched as far as the whitelist for the action goes. -/
  | whitelisted (a : Action) (field : String)
  /-- A field may be touched as far as the blacklist for the action goes. -/
  | spared (a : Action) (field : String)
  /-- All mandatory fields of an action that is used are named under it. -/
  | complete (a : Action)
  /-- A field is none of those that were named before it. -/
  | fresh (before : List String) (field : String)
  /-- What a field is incremented by is a number. -/
  | number (field : String) (v : Value)
  /-- What is appended to a field is a sequence. -/
  | sequence (field : String) (v : Value)
  /-- What a field is assigned passes a check. -/
  | passed (field : String) (v : Value) (g : Guard Payload)

namespace Requirement

variable (r : Request) (p : Policy Payload)

/-- A request meets a requirement under a policy. A rule that allows everything has no use for its two
lists, but its mandatory fields are mandatory. -/
def Met : Requirement → Prop
  | .granted a => ∃ rule, p.ruleFor a = some rule ∧
      (rule.allowAll = true ∨ rule.whitelist ≠ none ∨ rule.blacklist ≠ none)
  | .whitelisted a f => ∀ rule, p.ruleFor a = some rule → rule.allowAll = false →
      ∀ s, rule.whitelist = some s → f ∈ s
  | .spared a f => ∀ rule, p.ruleFor a = some rule → rule.allowAll = false →
      ∀ s, rule.blacklist = some s → f ∉ s
  | .complete a => ∀ rule, p.ruleFor a = some rule →
      ∀ s, rule.mandatory = some s → ∀ f ∈ s, f ∈ r.fields.under a
  | .fresh before f => f ∉ before
  | .number _ v => v.kind = .number
  | .sequence _ v => v.kind = .sequence
  | .passed _ v (.stock check _) => check.run v.toPayload = .ok ()
  | .passed _ v (.own rule) => rule.run v = .ok ()

/-- What a request is answered that does not meet a requirement. Of the mandatory fields that are missing
the answer names the least; a check that finds a violation is answered by it, under the name of the field,
and a check that cannot go on ends the call as it is. A rule of the caller's own that finds a violation is
answered alike, and its other objections stand as they are. -/
inductive Answer : Requirement → OrFault Rejection → Prop
  | granted (a : Action) : Answer (.granted a) (.refused (.actionNotPermitted a))
  | whitelisted (a : Action) (f : String) : Answer (.whitelisted a f) (.refused (.notWhitelisted f a))
  | spared (a : Action) (f : String) : Answer (.spared a f) (.refused (.blacklisted f a))
  | complete {a : Action} {f : String} {rule : FieldRule} {s : FieldSet} (hrule : p.ruleFor a = some rule)
      (hs : rule.mandatory = some s) (hf : f ∈ s) (hmissing : f ∉ r.fields.under a)
      (hleast : ∀ g ∈ s, g ∉ r.fields.under a → f ≤ g) :
      Answer (.complete a) (.refused (.missingMandatory f a))
  | fresh (before : List String) (f : String) : Answer (.fresh before f) (.refused (.duplicateField f))
  | number (f : String) (v : Value) : Answer (.number f v) (.refused (.incrementNotNumber f))
  | sequence (f : String) (v : Value) : Answer (.sequence f v) (.refused (.appendNotSequence f))
  | violation {f : String} {v : Value} {check : Check Payload} {mark : Option Nat} {violation : Violation}
      (h : check.run v.toPayload = .error (.refused violation)) :
      Answer (.passed f v (.stock check mark)) (.refused (.invalidValue f violation))
  | fault {f : String} {v : Value} {check : Check Payload} {mark : Option Nat} {e : Fault}
      (h : check.run v.toPayload = .error (.fault e)) : Answer (.passed f v (.stock check mark)) (.fault e)
  | objection {f : String} {v : Value} {rule : OwnRule} {objection : Objection}
      (h : rule.run v = .error objection) : Answer (.passed f v (.own rule)) (objection.ending f)

/-- A requirement has one answer. -/
theorem Answer.unique {r : Request} {p : Policy Payload} {q : Requirement} {e e' : OrFault Rejection}
    (h : q.Answer r p e) (h' : q.Answer r p e') : e = e' := by
  cases h with
  | complete hrule hs hf hmissing hleast =>
    cases h' with
    | complete hrule' hs' hf' hmissing' hleast' =>
      obtain rfl := Option.some.inj (hrule.symm.trans hrule')
      obtain rfl := Option.some.inj (hs.symm.trans hs')
      rw [String.le_antisymm (hleast _ hf' hmissing') (hleast' _ hf hmissing)]
  | violation h =>
    cases h' with
    | violation h' =>
      cases h.symm.trans h'
      rfl
    | fault h' => cases h.symm.trans h'
  | fault h =>
    cases h' with
    | violation h' => cases h.symm.trans h'
    | fault h' =>
      cases h.symm.trans h'
      rfl
  | objection h =>
    cases h' with
    | objection h' =>
      cases h.symm.trans h'
      rfl
  | _ =>
    cases h'
    rfl

end Requirement

namespace Request

variable (r : Request) (p : Policy Payload)

/-- What is required for an action: nothing, if it is not used. -/
def requirementsUnder (a : Action) : List Requirement :=
  if r.fields.under a = [] then []
  else .granted a :: ((r.fields.under a).map (.whitelisted a) ++
    ((r.fields.under a).map (.spared a) ++ [.complete a]))

/-- Of each name in a list it is required that it is none of those before. -/
def freshness (before : List String) : List String → List Requirement
  | [] => []
  | f :: rest => .fresh before f :: freshness (before ++ [f]) rest

/-- What is required of a request under a policy, in order. -/
def requirements : List Requirement :=
  Action.all.flatMap r.requirementsUnder ++ (freshness [] r.fields.all ++
    (r.increment.entries.map (fun e => .number e.1 e.2) ++
      (r.append.entries.map (fun e => .sequence e.1 e.2) ++
        r.assign.entries.flatMap fun e => (p.checksFor e.1).map (.passed e.1 e.2))))

/-- The first of some requirements that a request does not meet has this answer. -/
def FirstUnmet (qs : List Requirement) (e : OrFault Rejection) : Prop :=
  ∃ front q back, qs = front ++ q :: back ∧ (∀ b ∈ front, b.Met r p) ∧ ¬ q.Met r p ∧ q.Answer r p e

/-- Either a request does not meet the first of some requirements, or it meets it and the first that it does
not meet is among the others. -/
theorem firstUnmet_cons_iff {r : Request} {p : Policy Payload} {q : Requirement} {qs : List Requirement}
    {e : OrFault Rejection} : r.FirstUnmet p (q :: qs) e ↔
      (¬ q.Met r p ∧ q.Answer r p e) ∨ (q.Met r p ∧ r.FirstUnmet p qs e) := by
  constructor
  · rintro ⟨front, b, back, hsplit, hfront, hunmet, hanswer⟩
    cases front with
    | nil =>
      cases hsplit
      exact .inl ⟨hunmet, hanswer⟩
    | cons _ front =>
      cases hsplit
      rw [List.forall_mem_cons] at hfront
      exact .inr ⟨hfront.1, front, b, back, rfl, hfront.2, hunmet, hanswer⟩
  · rintro (⟨hunmet, hanswer⟩ | ⟨hmet, front, b, back, rfl, hfront, hunmet, hanswer⟩)
    · exact ⟨[], q, qs, rfl, nofun, hunmet, hanswer⟩
    · exact ⟨q :: front, b, back, rfl, List.forall_mem_cons.2 ⟨hmet, hfront⟩, hunmet, hanswer⟩

/-- There is one answer to the first requirement that is not met. -/
theorem FirstUnmet.unique {r : Request} {p : Policy Payload} {qs : List Requirement}
    {e e' : OrFault Rejection} (h : r.FirstUnmet p qs e) (h' : r.FirstUnmet p qs e') : e = e' := by
  induction qs with
  | nil =>
    obtain ⟨front, q, back, hsplit, -⟩ := h
    simp at hsplit
  | cons q qs ih =>
    rcases firstUnmet_cons_iff.1 h with ⟨hunmet, h⟩ | ⟨hmet, h⟩ <;>
      rcases firstUnmet_cons_iff.1 h' with ⟨hunmet', h'⟩ | ⟨hmet', h'⟩
    · exact h.unique h'
    · exact absurd hmet' hunmet
    · exact absurd hmet hunmet'
    · exact ih h h'

/-- An outcome settles some requirements: it is in favour of a request if the request meets them all, and
otherwise it is the answer to the first one that it does not meet. -/
def Settles (qs : List Requirement) : Except (OrFault Rejection) Unit → Prop
  | .ok _ => ∀ q ∈ qs, q.Met r p
  | .error e => r.FirstUnmet p qs e

end Request

/-! ## Settling requirements -/

namespace Request.Settles

variable {r : Request} {p : Policy Payload} {qs qs' : List Requirement}
  {x y : Except (OrFault Rejection) Unit}

/-- Where nothing is required, a request is as good as accepted. -/
theorem nil : r.Settles p [] (.ok ()) :=
  nofun

/-- A requirement that is met makes no difference. -/
theorem met {q : Requirement} (hq : q.Met r p) (h : r.Settles p qs x) : r.Settles p (q :: qs) x := by
  cases x with
  | ok _ => exact List.forall_mem_cons.2 ⟨hq, h⟩
  | error e => exact firstUnmet_cons_iff.2 (.inr ⟨hq, h⟩)

/-- A requirement that is not met has the last word. -/
theorem unmet {q : Requirement} {e : OrFault Rejection} (hq : ¬ q.Met r p) (h : q.Answer r p e)
    (qs : List Requirement) : r.Settles p (q :: qs) (.error e) :=
  firstUnmet_cons_iff.2 (.inl ⟨hq, h⟩)

/-- Two outcomes, the second asked for only after the first, settle one list after the other. -/
theorem append (h : r.Settles p qs x) (h' : r.Settles p qs' y) :
    r.Settles p (qs ++ qs') (x >>= fun _ => y) := by
  cases x with
  | ok _ =>
    cases y with
    | ok _ => exact List.forall_mem_append.2 ⟨h, h'⟩
    | error e =>
      obtain ⟨front, q, back, rfl, hfront, hunmet, hanswer⟩ := h'
      refine ⟨qs ++ front, q, back, by simp, ?_, hunmet, hanswer⟩
      exact List.forall_mem_append.2 ⟨h, hfront⟩
  | error e =>
    obtain ⟨front, q, back, rfl, hfront, hunmet, hanswer⟩ := h
    exact ⟨front, q, back ++ qs', by simp, hfront, hunmet, hanswer⟩

end Request.Settles

/-! ## Searches -/

/-- The outcome of a search for something that is wrong. -/
def outcomeOfSearch : Option Rejection → Except (OrFault Rejection) Unit
  | none => .ok ()
  | some e => .error (.refused e)

/-- Of two searches, the second is asked only if the first finds nothing. -/
theorem outcomeOfSearch_or (x y : Option Rejection) :
    outcomeOfSearch (x.or y) = (outcomeOfSearch x >>= fun _ => outcomeOfSearch y) := by
  cases x <;> rfl

namespace Request

variable {r : Request} {p : Policy Payload}

/-- A search settles what is required of the things that it looks through one by one. -/
theorem settles_find? {α : Type} {bad : α → Bool} {need : α → Requirement} {answer : α → Rejection}
    (hmet : ∀ x, bad x = false ↔ (need x).Met r p)
    (hanswer : ∀ x, (need x).Answer r p (.refused (answer x))) (xs : List α) :
    r.Settles p (xs.map need) (outcomeOfSearch ((xs.find? bad).map answer)) := by
  induction xs with
  | nil => exact .nil
  | cons x rest ih =>
    cases hx : bad x with
    | true =>
      have hunmet : ¬ (need x).Met r p := fun h => by simp [(hmet x).2 h] at hx
      rw [List.find?_cons_of_pos hx]
      exact .unmet hunmet (hanswer x) _
    | false =>
      rw [List.find?_cons_of_neg (by simp [hx])]
      exact .met ((hmet x).1 hx) ih

/-- Searches that are asked one after another settle one list after another. -/
theorem settles_findSome? {α : Type} {need : α → List Requirement} {search : α → Option Rejection}
    (h : ∀ a, r.Settles p (need a) (outcomeOfSearch (search a))) (as : List α) :
    r.Settles p (as.flatMap need) (outcomeOfSearch (as.findSome? search)) := by
  induction as with
  | nil => exact .nil
  | cons a rest ih =>
    have hsearch : (a :: rest).findSome? search = (search a).or (rest.findSome? search) := by
      rw [List.findSome?_cons]
      cases search a <;> rfl
    rw [List.flatMap_cons, hsearch, outcomeOfSearch_or]
    exact (h a).append ih

/-! ## Rules -/

section Rule

variable {a : Action} {rule : FieldRule}

/-- Under a rule with a list, a search for a field on the wrong side of it settles what is required of the
fields there; where there is no list, nothing is required. -/
theorem settles_listed {list : Option FieldSet} {bad : FieldSet → String → Bool}
    {need : String → Requirement} {answer : String → Rejection}
    (hmet : ∀ f, (need f).Met r p ↔ ∀ s, list = some s → bad s f = false)
    (hanswer : ∀ f, (need f).Answer r p (.refused (answer f))) (fields : List String) :
    r.Settles p (fields.map need)
      (outcomeOfSearch ((list.bind fun s => fields.find? (bad s)).map answer)) := by
  cases list with
  | none =>
    intro q hq
    obtain ⟨f, -, rfl⟩ := List.mem_map.1 hq
    exact (hmet f).2 nofun
  | some s => exact settles_find? (fun f => by simp [hmet]) hanswer fields

/-- A field passes the whitelist of a rule, unless the rule has no use for it. -/
theorem met_whitelisted_iff (hrule : p.ruleFor a = some rule) (f : String) :
    (Requirement.whitelisted a f).Met r p ↔
      (rule.allowAll = false → ∀ s, rule.whitelist = some s → f ∈ s) := by
  simp [Requirement.Met, hrule]

/-- A field passes the blacklist of a rule, unless the rule has no use for it. -/
theorem met_spared_iff (hrule : p.ruleFor a = some rule) (f : String) :
    (Requirement.spared a f).Met r p ↔
      (rule.allowAll = false → ∀ s, rule.blacklist = some s → f ∉ s) := by
  simp [Requirement.Met, hrule]

/-- The mandatory fields of a rule are complete. -/
theorem met_complete_iff (hrule : p.ruleFor a = some rule) :
    (Requirement.complete a).Met r p ↔
      ∀ s, rule.mandatory = some s → ∀ f ∈ s, f ∈ r.fields.under a := by
  simp [Requirement.Met, hrule]

/-- A mandatory field that is found missing is the least one: a set lists its members in order. -/
theorem le_of_missingField? {s : FieldSet} {fields : List String} {f : String}
    (h : missingField? s fields = some f) : f ∈ s ∧ f ∉ fields ∧ ∀ g ∈ s, g ∉ fields → f ≤ g := by
  obtain ⟨hmissing, front, back, hsplit, hfront⟩ := List.find?_eq_some_iff_append.1 h
  have hsorted := s.sorted
  rw [hsplit, List.pairwise_append, List.pairwise_cons] at hsorted
  have hf : f ∈ s.names := by simp [hsplit]
  refine ⟨hf, by simpa using hmissing, fun g hg hgf => ?_⟩
  have hg : g ∈ s.names := hg
  rw [hsplit, List.mem_append, List.mem_cons] at hg
  rcases hg with hg | rfl | hg
  · have hnamed : g ∈ fields := by simpa using hfront g hg
    exact absurd hnamed hgf
  · exact String.le_refl g
  · exact Std.le_of_lt (hsorted.2.1.1 g hg)

/-- The search for a missing field settles that the mandatory fields are complete. -/
theorem settles_complete (hrule : p.ruleFor a = some rule) :
    r.Settles p [.complete a] (outcomeOfSearch
      ((rule.mandatory.bind fun s => missingField? s (r.fields.under a)).map (.missingMandatory · a))) := by
  have hmet := met_complete_iff (r := r) hrule
  cases hs : rule.mandatory with
  | none =>
    refine .met (hmet.2 ?_) .nil
    rw [hs]
    exact nofun
  | some s =>
    show r.Settles p _ (outcomeOfSearch ((missingField? s (r.fields.under a)).map _))
    cases hfind : missingField? s (r.fields.under a) with
    | none =>
      refine .met (hmet.2 ?_) .nil
      rw [hs]
      rintro _ ⟨⟩
      exact missingField?_eq_none_iff.1 hfind
    | some f =>
      obtain ⟨hf, hmissing, hleast⟩ := le_of_missingField? hfind
      refine .unmet (fun h => hmissing (hmet.1 h s hs f hf)) ?_ []
      exact .complete hrule hs hf hmissing hleast

/-- What is wrong under a rule settles what the rule requires of the fields. -/
theorem settles_rule (hrule : p.ruleFor a = some rule) :
    r.Settles p ((r.fields.under a).map (.whitelisted a) ++
        ((r.fields.under a).map (.spared a) ++ [.complete a]))
      (outcomeOfSearch (rule.rejection? a (r.fields.under a))) := by
  have hcomplete := settles_complete (r := r) hrule
  rw [FieldRule.rejection?, outcomeOfSearch_or, ← List.append_assoc]
  refine Settles.append ?_ hcomplete
  cases hall : rule.allowAll with
  | true =>
    -- neither list is looked at, and neither is needed
    have hunlisted : ¬ rule.allowAll = false := by simp [hall]
    refine List.forall_mem_append.2 ⟨?_, ?_⟩ <;> rw [List.forall_mem_map]
    · exact fun f _ => (met_whitelisted_iff hrule f).2 fun h => absurd h hunlisted
    · exact fun f _ => (met_spared_iff hrule f).2 fun h => absurd h hunlisted
  | false =>
    show r.Settles p _ (outcomeOfSearch (Option.or _ _))
    rw [outcomeOfSearch_or]
    refine Settles.append ?_ ?_
    · refine settles_listed (fun f => ?_) (.whitelisted a) (r.fields.under a)
      simp [met_whitelisted_iff hrule, hall]
    · refine settles_listed (fun f => ?_) (.spared a) (r.fields.under a)
      simp [met_spared_iff hrule, hall]

end Rule

/-- What is wrong with the use of an action settles what is required for it. -/
theorem settles_action (r : Request) (p : Policy Payload) (a : Action) :
    r.Settles p (r.requirementsUnder a) (outcomeOfSearch (p.rejection? a (r.fields.under a))) := by
  rw [requirementsUnder, Policy.rejection?]
  by_cases hfields : r.fields.under a = []
  · rw [if_pos hfields, if_pos (by simp [hfields])]
    exact .nil
  · rw [if_neg hfields, if_neg (by simpa using hfields)]
    cases hrule : p.ruleFor a with
    | none =>
      refine .unmet ?_ (.granted a) _
      rintro ⟨rule, hrule', -⟩
      cases hrule.symm.trans hrule'
    | some rule =>
      have hgrants : (Requirement.granted a).Met r p ↔ rule.grantsAnything = true := by
        simp [Requirement.Met, hrule, FieldRule.grantsAnything, Option.isSome_iff_ne_none, or_assoc]
      show r.Settles p _ (outcomeOfSearch (if rule.grantsAnything then _ else _))
      split
      · rename_i h
        exact .met (hgrants.2 h) (settles_rule hrule)
      · rename_i h
        exact .unmet (fun hmet => h (hgrants.1 hmet)) (.granted a) _

/-! ## The request itself -/

/-- The search for a name that occurs for the second time settles that each name is fresh. -/
theorem settles_freshness {before seen : List String} (hseen : ∀ f, f ∈ before ↔ f ∈ seen)
    (fields : List String) : r.Settles p (freshness before fields)
      (outcomeOfSearch ((repeated? seen fields).map .duplicateField)) := by
  induction fields generalizing before seen with
  | nil => exact .nil
  | cons f rest ih =>
    rw [freshness, repeated?]
    split
    · rename_i h
      have hknown : ¬ (Requirement.fresh before f).Met r p :=
        not_not.2 ((hseen f).2 (List.contains_iff_mem.1 h))
      exact .unmet hknown (.fresh before f) _
    · rename_i h
      have hfresh : f ∉ before := fun hmem => h (List.contains_iff_mem.2 ((hseen f).1 hmem))
      refine .met hfresh (ih fun g => ?_)
      rw [List.mem_append, List.mem_singleton, List.mem_cons, hseen g, or_comm]

/-- A search through the entries of a bucket settles what is required of their values. -/
theorem settles_firstFailing? {test : Value → Bool} {need : String × Value → Requirement}
    {answer : String → Rejection} (hmet : ∀ e, test e.2 = true ↔ (need e).Met r p)
    (hanswer : ∀ e, (need e).Answer r p (.refused (answer e.1))) (bucket : NameMap Value) :
    r.Settles p (bucket.entries.map need) (outcomeOfSearch ((firstFailing? test bucket).map answer)) := by
  rw [firstFailing?, Option.map_map]
  exact settles_find? (fun e => by rw [Bool.not_eq_false', hmet e]) hanswer bucket.entries

/-! ## Assigned values -/

/-- Running a guard settles that a value passes it. -/
theorem settles_guard (field : String) (v : Value) (g : Guard Payload) :
    r.Settles p [.passed field v g] (g.run field v) := by
  cases g with
  | stock check mark =>
    rw [Guard.run]
    cases hrun : check.run v.toPayload with
    | ok _ => exact .met hrun .nil
    | error e =>
      have hunmet : ¬ (Requirement.passed field v (.stock check mark)).Met r p :=
        fun h => nomatch hrun.symm.trans h
      cases e with
      | refused violation => exact .unmet hunmet (.violation hrun) []
      | fault f => exact .unmet hunmet (.fault hrun) []
  | own rule =>
    rw [Guard.run]
    cases hrun : rule.run v with
    | ok _ => exact .met hrun .nil
    | error objection =>
      have hunmet : ¬ (Requirement.passed field v (.own rule)).Met r p := fun h => nomatch hrun.symm.trans h
      exact .unmet hunmet (.objection hrun) []

/-- Running guards settles that a value passes them. -/
theorem settles_runChecks (field : String) (v : Value) (gs : List (Guard Payload)) :
    r.Settles p (gs.map (.passed field v)) (runChecks field v gs) := by
  induction gs with
  | nil => exact .nil
  | cons g rest ih => exact (settles_guard field v g).append ih

/-- Checking assigned values settles that they pass their checks. -/
theorem settles_checkAssigned (entries : List (String × Value)) :
    r.Settles p (entries.flatMap fun e => (p.checksFor e.1).map (.passed e.1 e.2))
      (checkAssigned p entries) := by
  induction entries with
  | nil => exact .nil
  | cons e rest ih => exact (settles_runChecks e.1 e.2 _).append ih

/-! ## Judgements -/

/-- A judgement settles all that is required of a request. -/
theorem settles_judge (r : Request) (p : Policy Payload) : r.Settles p (r.requirements p) (r.judge p) := by
  have hjudge : r.judge p =
      (outcomeOfSearch (r.rejection? p) >>= fun _ => checkAssigned p r.assign.entries) := by
    rw [judge]
    cases r.rejection? p <;> rfl
  rw [hjudge, rejection?, outcomeOfSearch_or, outcomeOfSearch_or, outcomeOfSearch_or]
  simp only [bind_assoc]
  refine (settles_findSome? (settles_action r p) Action.all).append ?_
  refine (settles_freshness (fun _ => Iff.rfl) r.fields.all).append ?_
  refine (settles_firstFailing? (fun e => beq_iff_eq) (fun e => .number e.1 e.2) r.increment).append ?_
  refine (settles_firstFailing? (fun e => beq_iff_eq) (fun e => .sequence e.1 e.2) r.append).append ?_
  exact settles_checkAssigned r.assign.entries

/-- A judgement is in favour of a request exactly if the request meets all that is required of it, and it is
some answer exactly if that is the answer to the first requirement that the request does not meet. -/
theorem judge_firstUnmet (r : Request) (p : Policy Payload) :
    (r.judge p = .ok () ↔ ∀ q ∈ r.requirements p, q.Met r p) ∧
      ∀ e, r.judge p = .error e ↔ r.FirstUnmet p (r.requirements p) e := by
  have hsettles := settles_judge r p
  cases hjudge : r.judge p with
  | ok _ =>
    rw [hjudge] at hsettles
    refine ⟨iff_of_true rfl hsettles, fun e => iff_of_false nofun ?_⟩
    rintro ⟨front, q, back, hsplit, -, hunmet, -⟩
    exact hunmet (hsettles q (by simp [hsplit]))
  | error e =>
    rw [hjudge] at hsettles
    constructor
    · refine iff_of_false nofun fun h => ?_
      obtain ⟨front, q, back, hsplit, -, hunmet, -⟩ := hsettles
      exact hunmet (h q (by simp [hsplit]))
    · intro e'
      constructor
      · rintro ⟨⟩
        exact hsettles
      · exact fun h => congrArg Except.error (hsettles.unique h)

end Request

end Amend
