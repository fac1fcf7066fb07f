import Amend.Batch
import Amend.Proofs.Payload.Shown
import Amend.Proofs.Update

/-!
# Batches by their outcomes

What a request comes to depends on no other request: it is read, gets its bookkeeping fields, is judged
and compiled (`outcomeOf`). There are three kinds of outcome. A request is accepted with an update,
rejected for a reason, or ends in a fault. It ends in a fault if a check on an assigned value does, or if
there is a reason to reject it that cannot be told (`outcomeOf_eq_fault_iff`).

A request is illegible if it cannot be read and the reason why cannot be told. A batch with such a request
ends before any request is judged (`compileBatch_of_illegible`). Any other batch is a function of the
outcomes of its requests, in order: `compileBatch_result` says which, for both ways to deal with rejections
at once. The run of a batch is followed once for that; its steps are not looked at again.
-/

namespace Amend

/-- What a request comes to: an update, a reason to reject it, or a fault. -/
abbrev Outcome := Except (OrFault Rejection) Update

namespace Outcome

/-- The update of an accepted request. -/
def accepted? : Outcome → Option Update
  | .ok u => some u
  | .error _ => none

/-- The reason why a request is rejected. -/
def rejected? : Outcome → Option Rejection
  | .error (.refused e) => some e
  | _ => none

/-- How a request ends the call, if it does. Whether a rejection does is for the policy to say. -/
def ending? (failOnError : Bool) : Outcome → Option Failure
  | .ok _ => none
  | .error (.refused e) => if failOnError then some (.rejected e) else none
  | .error (.fault f) => some (.fault f.whenCounted)

/-- The updates of the accepted requests, in order. -/
def accepted (os : List Outcome) : List Update :=
  os.filterMap accepted?

/-- The reasons of the rejected requests, in order, with their positions counted from a first one. -/
def rejected (os : List Outcome) (first : Nat) : List (Nat × Rejection) :=
  (os.zipIdx first).filterMap fun e => (rejected? e.1).map fun r => (e.2, r)

/-- The result of a batch whose requests have these outcomes. -/
def result (failOnError : Bool) (os : List Outcome) : Except Failure BatchResult :=
  match os.findSome? (ending? failOnError) with
  | some failure => .error failure
  | none => .ok ⟨accepted os, rejected os 0⟩

@[simp] theorem accepted_cons_ok (u : Update) (os : List Outcome) :
    accepted (.ok u :: os) = u :: accepted os := rfl

@[simp] theorem accepted_cons_error (e : OrFault Rejection) (os : List Outcome) :
    accepted (.error e :: os) = accepted os := rfl

@[simp] theorem rejected_cons_ok (u : Update) (os : List Outcome) (first : Nat) :
    rejected (.ok u :: os) first = rejected os (first + 1) := rfl

@[simp] theorem rejected_cons_refused (e : Rejection) (os : List Outcome) (first : Nat) :
    rejected (.error (.refused e) :: os) first = (first, e) :: rejected os (first + 1) := rfl

/-- The accepted requests of two lists. -/
theorem accepted_append (xs ys : List Outcome) : accepted (xs ++ ys) = accepted xs ++ accepted ys :=
  List.filterMap_append

/-- The rejected requests of two lists. -/
theorem rejected_append (xs ys : List Outcome) (first : Nat) :
    rejected (xs ++ ys) first = rejected xs first ++ rejected ys (first + xs.length) := by
  rw [rejected, List.zipIdx_append, List.filterMap_append]
  rfl

/-- An accepted request is one of those that have outcomes. -/
theorem mem_accepted_iff {u : Update} {os : List Outcome} : u ∈ accepted os ↔ .ok u ∈ os := by
  rw [accepted, List.mem_filterMap]
  constructor
  · rintro ⟨o, ho, hu⟩
    cases o with
    | ok v =>
      obtain rfl := Option.some.inj hu
      exact ho
    | error e => cases hu
  · intro h
    exact ⟨_, h, rfl⟩

/-- The reason of an outcome is that of a rejected request. -/
theorem rejected?_eq_some_iff {o : Outcome} {e : Rejection} :
    rejected? o = some e ↔ o = .error (.refused e) := by
  constructor
  · intro h
    cases o with
    | ok u => cases h
    | error x =>
      cases x with
      | refused y => rw [Option.some.inj h]
      | fault f => cases h
  · rintro rfl
    rfl

/-- A rejected request is listed with its position. -/
theorem mem_rejected_iff {i : Nat} {e : Rejection} {os : List Outcome} :
    (i, e) ∈ rejected os 0 ↔ os[i]? = some (.error (.refused e)) := by
  rw [rejected, List.mem_filterMap]
  constructor
  · rintro ⟨⟨o, j⟩, ho, hr⟩
    obtain ⟨r, hrejected, hpair⟩ := Option.map_eq_some_iff.1 hr
    obtain ⟨rfl, rfl⟩ := Prod.mk.inj hpair
    rw [← rejected?_eq_some_iff.1 hrejected]
    exact List.mem_zipIdx_iff_getElem?.1 ho
  · intro h
    exact ⟨(_, i), List.mem_zipIdx_iff_getElem?.2 h, rfl⟩

/-- Where there is a result, no request ends the call. -/
theorem result_eq_ok_iff {failOnError : Bool} {os : List Outcome} {res : BatchResult} :
    result failOnError os = .ok res ↔
      os.findSome? (ending? failOnError) = none ∧ res = ⟨accepted os, rejected os 0⟩ := by
  rw [result]
  cases os.findSome? (ending? failOnError) with
  | some failure => exact iff_of_false nofun nofun
  | none =>
    constructor
    · rintro ⟨⟩
      exact ⟨rfl, rfl⟩
    · rintro ⟨-, rfl⟩
      rfl

end Outcome

/-! ## Runs -/

namespace Run

variable {table : String} {p : Policy Payload}

/-- A run ends early with the first request that ends the call. -/
theorem snd_through (items : List (Except Rejection Request)) (i : Nat) (r : Run) :
    (through table p items i r).2 =
      (items.map (Update.ofPrepared table p)).findSome? (Outcome.ending? p.failOnError) := by
  induction items generalizing i r with
  | nil => rfl
  | cons item rest ih =>
    rw [through, List.map_cons, List.findSome?_cons]
    cases Update.ofPrepared table p item with
    | ok u => exact ih _ _
    | error e =>
      cases e with
      | refused rejection =>
        cases hmode : p.failOnError with
        | true => rfl
        | false =>
          rw [hmode] at ih
          exact ih _ _
      | fault f => rfl

/-- A run that does not end early has the updates of the accepted requests, and the reasons of the rejected
ones. -/
theorem fst_through {items : List (Except Rejection Request)} {i : Nat} {r : Run}
    (h : (through table p items i r).2 = none) :
    (through table p items i r).1.operations =
        r.operations ++ Outcome.accepted (items.map (Update.ofPrepared table p)) ∧
      (through table p items i r).1.failures =
        r.failures ++ Outcome.rejected (items.map (Update.ofPrepared table p)) i := by
  induction items generalizing i r with
  | nil => exact ⟨(List.append_nil _).symm, (List.append_nil _).symm⟩
  | cons item rest ih =>
    rw [through] at h ⊢
    rw [List.map_cons]
    cases ho : Update.ofPrepared table p item with
    | ok u =>
      rw [ho] at h
      obtain ⟨hops, hfails⟩ := ih h
      exact ⟨by simpa [accept] using hops, hfails⟩
    | error e =>
      rw [ho] at h
      cases e with
      | refused rejection =>
        cases hmode : p.failOnError with
        | true => simp [hmode] at h
        | false =>
          rw [hmode] at h
          obtain ⟨hops, hfails⟩ := ih h
          exact ⟨hops, by simpa [skip, count] using hfails⟩
      | fault f => cases h

end Run

/-! ## Preparation -/

/-- A request can be read, or the reason why not can be told. -/
def Request.isLegible (raw : Payload) : Bool :=
  match Request.ofPayload raw with
  | .ok _ => true
  | .error reason => reason.isTellable

/-- A number is no request, and it is quoted. -/
theorem Request.isLegible_number (n : Number) : isLegible (.number n) = n.isShowable := rfl

section Preparation

variable {p : Policy Payload} {stamp : String} {raw : Payload} {raws : List Payload}

/-- A request that can be read is given its bookkeeping fields. -/
theorem Request.prepare_of_ofPayload {r : Request} (h : ofPayload raw = .ok r) :
    prepare p stamp raw = .ok (.ok (r.withAutoFields p stamp)) := by
  rw [prepare, of, h]
  rfl

/-- Of a request that cannot be read the reason is kept, if it can be told. -/
theorem Request.prepare_of_error {e : Rejection} (h : ofPayload raw = .error e) :
    prepare p stamp raw = (told e).kept := by
  rw [prepare, of, h]
  rfl

/-- Only illegible requests end the call while requests are prepared. -/
theorem Request.prepare_eq_error_iff {f : Fault} :
    prepare p stamp raw = .error f ↔ isLegible raw = false ∧ f = .longInteger := by
  rw [isLegible]
  cases hread : ofPayload raw with
  | ok r =>
    rw [prepare_of_ofPayload hread]
    exact iff_of_false nofun fun h => nomatch h.1
  | error e =>
    rw [prepare_of_error hread]
    have htold : told e = .fault f ↔ e.isTellable = false ∧ f = .longInteger := told_eq_fault_iff
    refine Iff.trans ?_ htold
    cases told e with
    | refused reason => exact iff_of_false nofun nofun
    | fault g => rw [OrFault.kept, Except.error.injEq, OrFault.fault.injEq]

/-- What a request comes to under a policy that permits the bookkeeping fields: an update, a reason to reject it,
or a fault. -/
def outcomeUnder (table : String) (p : Policy Payload) (stamp : String) (raw : Payload) : Outcome :=
  match Request.prepare p stamp raw with
  | .ok item => Update.ofPrepared table p item
  | .error f => .error (.fault f)

/-- Where all requests are legible, all are prepared, and their outcomes are those of the requests. -/
theorem mapM_prepare_of_legible (table : String) (p : Policy Payload) (stamp : String)
    (h : ∀ raw ∈ raws, Request.isLegible raw = true) :
    ∃ items, raws.mapM (Request.prepare p stamp) = .ok items ∧
      items.map (Update.ofPrepared table p) = raws.map (outcomeUnder table p stamp) := by
  induction raws with
  | nil => exact ⟨[], rfl, rfl⟩
  | cons raw rest ih =>
    rw [List.forall_mem_cons] at h
    obtain ⟨items, hitems, houtcomes⟩ := ih h.2
    cases hprepare : Request.prepare p stamp raw with
    | error f =>
      have hillegible := (Request.prepare_eq_error_iff.1 hprepare).1
      exact absurd (h.1.symm.trans hillegible) nofun
    | ok item =>
      refine ⟨item :: items, ?_, ?_⟩
      · rw [List.mapM_cons, hprepare, hitems]
        rfl
      · rw [List.map_cons, List.map_cons, houtcomes, outcomeUnder, hprepare]

/-- Where a request is illegible, not all are prepared. -/
theorem mapM_prepare_of_illegible (hmem : raw ∈ raws) (h : Request.isLegible raw = false) :
    raws.mapM (Request.prepare p stamp) = .error .longInteger := by
  induction raws with
  | nil => cases hmem
  | cons first rest ih =>
    rw [List.mapM_cons]
    cases hprepare : Request.prepare p stamp first with
    | error f =>
      rw [(Request.prepare_eq_error_iff.1 hprepare).2]
      rfl
    | ok item =>
      rcases List.mem_cons.1 hmem with rfl | hmem
      · cases hprepare.symm.trans (Request.prepare_eq_error_iff.2 ⟨h, rfl⟩)
      · rw [ih hmem]
        rfl

end Preparation

/-! ## Batches -/

/-- The result of a batch of prepared requests is made of their outcomes. -/
theorem Batch.result_reportOn (b : Batch) (items : List (Except Rejection Request)) (c : Counters) :
    (b.reportOn items c).result =
      Outcome.result b.policy.failOnError (items.map (Update.ofPrepared b.table b.policy)) := by
  rw [reportOn, Outcome.result, ← Run.snd_through items 0 (.start c)]
  cases hrun : Run.through b.table b.policy items 0 (.start c) with
  | mk r ending =>
    cases ending with
    | some failure => rfl
    | none =>
      obtain ⟨hops, hfails⟩ := Run.fst_through (congrArg Prod.snd hrun)
      rw [hrun] at hops hfails
      show Except.ok (BatchResult.mk r.operations r.failures) = Except.ok (BatchResult.mk _ _)
      rw [hops, hfails]
      rfl

/-- A batch is read if policy, table, clock and requests are all in order. -/
theorem Batch.read_eq_ok_iff {table requests policy : Payload} {clock : Moment} {b : Batch} :
    read table requests policy clock = .ok b ↔
      ∃ p, Policy.ofPayload policy = .ok p ∧ tableName table = .ok b.table ∧ clock.timestamp = .ok b.stamp ∧
        requests.elements? = some b.requests ∧ b.policy = p.effective := by
  constructor
  · intro h
    rw [read] at h
    cases hpolicy : Policy.ofPayload policy with
    | error e =>
      rw [hpolicy] at h
      cases h
    | ok p =>
      cases htable : tableName table with
      | error e =>
        rw [hpolicy, htable] at h
        cases h
      | ok t =>
        cases hclock : clock.timestamp with
        | error e =>
          rw [hpolicy, htable, hclock] at h
          cases h
        | ok stamp =>
          cases hitems : requests.elements? with
          | none =>
            rw [hpolicy, htable, hclock, hitems] at h
            cases h
          | some items =>
            rw [hpolicy, htable, hclock, hitems] at h
            cases h
            exact ⟨p, rfl, rfl, rfl, rfl, rfl⟩
  · rintro ⟨p, hpolicy, htable, hclock, hitems, hb⟩
    obtain ⟨t, q, stamp, items⟩ := b
    obtain rfl : q = p.effective := hb
    rw [read, hpolicy, htable, hclock, hitems]
    rfl

/-- The outcome of a request by itself, under a policy that is yet to be widened. -/
def outcomeOf (table : String) (p : Policy Payload) (stamp : String) (raw : Payload) : Outcome :=
  outcomeUnder table p.effective stamp raw

section Results

variable {table requests policy : Payload} {clock : Moment} {p : Policy Payload} {t stamp : String}
  {items : List Payload} (hpolicy : Policy.ofPayload policy = .ok p) (htable : tableName table = .ok t)
  (hclock : clock.timestamp = .ok stamp) (hitems : requests.elements? = some items)
include hpolicy htable hclock hitems

/-- A call in which nothing is wrong but its requests reports on them. -/
theorem compileBatch_eq_report (c : Counters) :
    compileBatch table requests policy clock c = Batch.report ⟨t, p.effective, stamp, items⟩ c := by
  have hread : Batch.read table requests policy clock = .ok ⟨t, p.effective, stamp, items⟩ :=
    Batch.read_eq_ok_iff.2 ⟨p, hpolicy, htable, hclock, hitems, rfl⟩
  rw [compileBatch, hread]

/-- Where all requests are legible, they are all prepared, and what is reported is reported on them. -/
theorem compileBatch_of_legible (hlegible : ∀ raw ∈ items, Request.isLegible raw = true) :
    ∃ prepared, prepared.map (Update.ofPrepared t p.effective) = items.map (outcomeOf t p stamp) ∧
      ∀ c, compileBatch table requests policy clock c =
        Batch.reportOn ⟨t, p.effective, stamp, items⟩ prepared c := by
  obtain ⟨prepared, hprepared, houtcomes⟩ := mapM_prepare_of_legible t p.effective stamp hlegible
  refine ⟨prepared, houtcomes, fun c => ?_⟩
  rw [compileBatch_eq_report hpolicy htable hclock hitems, Batch.report, Batch.prepared, hprepared]

/-- Where a request is illegible, the call ends before any request is judged, and nothing is counted or
logged. -/
theorem compileBatch_of_illegible {raw : Payload} (hmem : raw ∈ items) (hraw : Request.isLegible raw = false)
    (c : Counters) :
    compileBatch table requests policy clock c = ⟨.error (.fault .longInteger), [], c⟩ := by
  rw [compileBatch_eq_report hpolicy htable hclock hitems, Batch.report, Batch.prepared,
    mapM_prepare_of_illegible hmem hraw]

/-- The result of a batch of legible requests is made of their outcomes. -/
theorem compileBatch_result (hlegible : ∀ raw ∈ items, Request.isLegible raw = true) (c : Counters) :
    (compileBatch table requests policy clock c).result =
      Outcome.result p.failOnError (items.map (outcomeOf t p stamp)) := by
  obtain ⟨prepared, houtcomes, hreport⟩ := compileBatch_of_legible hpolicy htable hclock hitems hlegible
  rw [hreport, Batch.result_reportOn]
  show Outcome.result p.failOnError (prepared.map (Update.ofPrepared t p.effective)) = _
  rw [houtcomes]

end Results

/-- Requests are all legible, or one of them is not. -/
theorem legible_or_exists_illegible (items : List Payload) :
    (∀ raw ∈ items, Request.isLegible raw = true) ∨ ∃ raw ∈ items, Request.isLegible raw = false := by
  cases h : items.all Request.isLegible with
  | true => exact .inl (List.all_eq_true.1 h)
  | false =>
    obtain ⟨raw, hmem, hraw⟩ := List.all_eq_false.1 h
    exact .inr ⟨raw, hmem, Bool.eq_false_iff.2 hraw⟩

/-- A batch that has a result was read, and its updates are those of its accepted requests. -/
theorem exists_outcomeOf_of_mem_operations {table requests policy : Payload} {clock : Moment}
    {c : Counters} {p : Policy Payload} {res : BatchResult} {u : Update}
    (hpolicy : Policy.ofPayload policy = .ok p)
    (hres : (compileBatch table requests policy clock c).result = .ok res) (hu : u ∈ res.operations) :
    ∃ t stamp raw, outcomeOf t p stamp raw = .ok u := by
  cases hread : Batch.read table requests policy clock with
  | error failure =>
    rw [compileBatch, hread] at hres
    cases hres
  | ok b =>
    obtain ⟨q, hq, htable, hclock, hitems, -⟩ := Batch.read_eq_ok_iff.1 hread
    obtain rfl := Except.ok.inj (hpolicy.symm.trans hq)
    rcases legible_or_exists_illegible b.requests with hlegible | ⟨raw, hmem, hraw⟩
    · rw [compileBatch_result hpolicy htable hclock hitems hlegible, Outcome.result_eq_ok_iff] at hres
      obtain ⟨-, rfl⟩ := hres
      obtain ⟨raw, -, hraw⟩ := List.mem_map.1 (Outcome.mem_accepted_iff.1 hu)
      exact ⟨b.table, b.stamp, raw, hraw⟩
    · rw [compileBatch_of_illegible hpolicy htable hclock hitems hmem hraw] at hres
      cases hres

/-! ## Faults -/

/-- The fault that a check on a value of a request ends in. A request that cannot be read has none. -/
def checkFaultOf? (p : Policy Payload) (stamp : String) (raw : Payload) : Option Fault :=
  match Request.ofPayload raw with
  | .ok r => (r.withAutoFields p.effective stamp).checkFault? p.effective
  | .error _ => none

/-- If there is a reason to reject a request, its assigned values apart, it can be told: the reason why it cannot
be read, or why its key cannot be encoded. -/
def isTold (p : Policy Payload) (stamp : String) (raw : Payload) : Bool :=
  match Request.ofPayload raw with
  | .ok r => (r.withAutoFields p.effective stamp).tellsKey p.effective
  | .error reason => reason.isTellable

section Faults

variable {table stamp : String} {p : Policy Payload} {raw : Payload}

/-- The outcome of a request that can be read is that of the request with its bookkeeping fields. -/
theorem outcomeOf_of_ofPayload {r : Request} (h : Request.ofPayload raw = .ok r) :
    outcomeOf table p stamp raw = (r.withAutoFields p.effective stamp).compile table p.effective := by
  rw [outcomeOf, outcomeUnder, Request.prepare_of_ofPayload h]
  rfl

/-- The outcome of a request that cannot be read is the reason, as far as it can be told. -/
theorem outcomeOf_of_error {e : Rejection} (h : Request.ofPayload raw = .error e) :
    outcomeOf table p stamp raw = .error (told e) := by
  rw [outcomeOf, outcomeUnder, Request.prepare_of_error h]
  cases told e <;> rfl

/-- A request ends in a fault if a check on an assigned value does, or if the reason to reject it cannot be
told. -/
theorem outcomeOf_eq_fault_iff {f : Fault} :
    outcomeOf table p stamp raw = .error (.fault f) ↔
      checkFaultOf? p stamp raw = some f ∨ isTold p stamp raw = false ∧ f = .longInteger := by
  rw [checkFaultOf?, isTold]
  cases hread : Request.ofPayload raw with
  | ok r =>
    rw [outcomeOf_of_ofPayload hread]
    exact Request.compile_eq_fault_iff
  | error e =>
    rw [outcomeOf_of_error hread, Except.error.injEq, told_eq_fault_iff]
    exact (or_iff_right nofun).symm

/-- An illegible request is one whose reason cannot be told. -/
theorem isTold_of_illegible (h : Request.isLegible raw = false) : isTold p stamp raw = false := by
  rw [isTold]
  rw [Request.isLegible] at h
  cases hread : Request.ofPayload raw with
  | ok r =>
    rw [hread] at h
    cases h
  | error e =>
    rw [hread] at h
    exact h

end Faults

/-! ## A small batch -/

/-- The policy of a help desk: requests may set the status of a case, and updates are counted. -/
def deskPolicy (failOnError : Bool) : Policy Payload where
  rules := .ofList [(.assign, ⟨false, some (.ofList ["status"]), none, none⟩)]
  autoTimestamp := false
  autoVersion := true
  failOnError := failOnError
  checks := none

/-- A request to set a field of a case. -/
def deskRequest (field : String) : Payload :=
  .mapping [(.text "key", .mapping [(.text "pk", .text "case"), (.text "sk", .int 1)]),
    (.text "set", .mapping [(.text field, .text "open")])]

/-- Three requests. The second touches a field that is not listed, and the third is no request at all. -/
def deskRequests : List Payload :=
  [deskRequest "status", deskRequest "owner", .text "open"]

/-- An integer of five thousand and one digits, which is no request and cannot be quoted. -/
def longRequest : Payload := .int (powerOfTen 5000)

/-- No answer says that it is no request. -/
theorem isLegible_longRequest : Request.isLegible longRequest = false :=
  (Request.isLegible_number _).trans (Number.isShowable_powerOfTen (by decide))

/-- The time at which the batch is compiled. -/
def deskClock : Moment := ⟨⟨2024, 2, 29⟩, 12, 0, 0, 0, 0⟩

end Amend
