import Amend.Proofs.Batch.Outcome
import Mathlib.Algebra.BigOperators.Group.List.Basic
import Mathlib.Algebra.GroupWithZero.Nat

/-!
# What a call counts and logs

A call that gets to its requests counts one batch, however it ends, and every request it gets to: the accepted
ones, the rejected ones, and these by kind too (`Counters.Accounts`). It gets to all requests up to the first one
that ends it, and counts that one as well if it is rejected. A line is logged for each rejected request that is
left out, and the summary only if the call comes to its end. A call that does not get to its requests counts
nothing and logs nothing, and a request that a rule rejects as none of the kinds is not counted as rejected
(`compileBatch_accounts_unkinded`).

The books are kept request by request (`Run.step_through`, `Run.end_through`), and what two stretches of requests
add is what they add together (`Counters.Accounts.append`). So a run has them in order up to the request that ends
it (`Run.pass_through`), and `compileBatch_accounts` closes them.
-/

namespace Amend

/-- The reasons of the rejected requests, in order. -/
def Outcome.reasons (os : List Outcome) : List Rejection :=
  os.filterMap rejected?

/-- The reasons of two lists. -/
theorem Outcome.reasons_append (xs ys : List Outcome) : reasons (xs ++ ys) = reasons xs ++ reasons ys :=
  List.filterMap_append

/-- Rejected requests are listed for their reasons. -/
theorem Outcome.map_snd_rejected (os : List Outcome) (first : Nat) :
    (rejected os first).map Prod.snd = reasons os := by
  induction os generalizing first with
  | nil => rfl
  | cons o rest ih =>
    cases o with
    | ok u => exact ih (first + 1)
    | error e =>
      cases e with
      | refused e => exact congrArg (e :: ·) (ih (first + 1))
      | fault f => exact ih (first + 1)

/-! ## Counts -/

/-- Kinds are told apart by their labels. -/
theorem RejectionKind.label_injective : Function.Injective RejectionKind.label := by
  have hfind : ∀ k : RejectionKind, all.find? (fun i => i.label = k.label) = some k := by
    intro k
    cases k <;> decide
  intro j k h
  exact Option.some.inj ((hfind j).symm.trans (h ▸ hfind k))

namespace Counters

/-- How many requests for a table were compiled. -/
def compiledFor (c : Counters) (table : String) : Nat :=
  (c.requests.get? (table, "compiled")).getD 0

/-- How many requests for a table were rejected. -/
def rejectedFor (c : Counters) (table : String) : Nat :=
  (c.requests.get? (table, "rejected")).getD 0

/-- How many requests for a table were rejected for a reason of a kind. -/
def kindFor (c : Counters) (table : String) (k : RejectionKind) : Nat :=
  (c.rejections.get? (table, k.label)).getD 0

/-- How many batches for a table were counted. -/
def batchesFor (c : Counters) (table : String) : Nat :=
  (c.batches.get? table).getD 0

/-- Between two states of the counters some batches and requests with these outcomes were counted for a table, and
nothing else was. -/
structure Accounts (table : String) (batches : Nat) (os : List Outcome) (before after : Counters) : Prop where
  batches : after.batchesFor table = before.batchesFor table + batches
  compiled : after.compiledFor table = before.compiledFor table + (Outcome.accepted os).length
  rejected : after.rejectedFor table = before.rejectedFor table + (Outcome.reasons os).length
  kinds : ∀ k, after.kindFor table k = before.kindFor table k + (Outcome.reasons os).countP (·.kind = k)
  otherBatches : ∀ other, other ≠ table → after.batches.get? other = before.batches.get? other
  otherRequests : ∀ label, label ≠ (table, "compiled") → label ≠ (table, "rejected") →
    after.requests.get? label = before.requests.get? label
  otherRejections : ∀ label, (∀ k : RejectionKind, label ≠ (table, k.label)) →
    after.rejections.get? label = before.rejections.get? label

variable {table : String}

namespace Accounts

/-- Where nothing happens, nothing is counted. -/
theorem refl (c : Counters) : Accounts table 0 [] c c :=
  ⟨rfl, rfl, rfl, fun _ => rfl, fun _ _ => rfl, fun _ _ _ => rfl, fun _ _ => rfl⟩

/-- What is counted one after the other is counted together. -/
theorem append {m n : Nat} {xs ys : List Outcome} {c₁ c₂ c₃ : Counters} (h₁ : Accounts table m xs c₁ c₂)
    (h₂ : Accounts table n ys c₂ c₃) : Accounts table (m + n) (xs ++ ys) c₁ c₃ where
  batches := by rw [h₂.batches, h₁.batches, Nat.add_assoc]
  compiled := by rw [h₂.compiled, h₁.compiled, Outcome.accepted_append, List.length_append, Nat.add_assoc]
  rejected := by
    rw [h₂.rejected, h₁.rejected, Outcome.reasons_append, List.length_append, Nat.add_assoc]
  kinds k := by
    rw [h₂.kinds, h₁.kinds, Outcome.reasons_append, List.countP_append, Nat.add_assoc]
  otherBatches other h := (h₂.otherBatches other h).trans (h₁.otherBatches other h)
  otherRequests label hc hr := (h₂.otherRequests label hc hr).trans (h₁.otherRequests label hc hr)
  otherRejections label h := (h₂.otherRejections label h).trans (h₁.otherRejections label h)

/-- A batch is counted once, and no request with it. -/
theorem batch (c : Counters) : Accounts table 1 [] c (c.batch table) where
  batches := by
    refine (getD_get?_bump _ _ _).trans ?_
    rw [if_pos rfl]
    rfl
  compiled := rfl
  rejected := rfl
  kinds _ := rfl
  otherBatches _ h := get?_bump_of_ne _ h
  otherRequests _ _ _ := rfl
  otherRejections _ _ := rfl

/-- A batch may be counted with what went before it. -/
theorem close {os : List Outcome} {before after : Counters} (h : Accounts table 0 os before after) :
    Accounts table 1 os before (after.batch table) := by
  have hbooks := h.append (batch after)
  rw [List.append_nil] at hbooks
  exact hbooks

/-- A compiled request is counted once. -/
theorem compile (u : Update) (c : Counters) : Accounts table 0 [.ok u] c (c.compiled table) where
  batches := rfl
  compiled := by
    refine (getD_get?_bump _ _ _).trans ?_
    rw [if_pos rfl]
    rfl
  rejected := by
    refine (getD_get?_bump _ _ _).trans ?_
    rw [if_neg (by simp)]
    rfl
  kinds _ := rfl
  otherBatches _ _ := rfl
  otherRequests _ hc _ := get?_bump_of_ne _ hc
  otherRejections _ _ := rfl

/-- A rejected request is counted once, and once under the kind of its reason. -/
theorem reject (e : Rejection) (c : Counters) :
    Accounts table 0 [.error (.refused e)] c (c.rejected table e.kind.label) where
  batches := rfl
  compiled := by
    refine (getD_get?_bump _ _ _).trans ?_
    rw [if_neg (by simp)]
    rfl
  rejected := by
    refine (getD_get?_bump _ _ _).trans ?_
    rw [if_pos rfl]
    rfl
  kinds k := by
    refine (getD_get?_bump _ _ _).trans ?_
    have hlabel : (table, e.kind.label) = (table, k.label) ↔ e.kind = k := by
      rw [Prod.mk.injEq, RejectionKind.label_injective.eq_iff]
      exact and_iff_right rfl
    simp [Outcome.reasons, Outcome.rejected?, hlabel, kindFor, List.countP_cons]
  otherBatches _ _ := rfl
  otherRequests _ _ hr := get?_bump_of_ne _ hr
  otherRejections _ h := get?_bump_of_ne _ (h e.kind)

/-- A request that ends in a fault is not counted. -/
theorem fault (f : Fault) (c : Counters) : Accounts table 0 [.error (.fault f)] c c :=
  ⟨rfl, rfl, rfl, fun _ => rfl, fun _ _ => rfl, fun _ _ _ => rfl, fun _ _ => rfl⟩

/-- Each reason is of one kind, so the kinds share out the reasons. -/
theorem sum_countP_kind (rs : List Rejection) :
    (RejectionKind.all.map fun k => rs.countP (·.kind = k)).sum = rs.length := by
  induction rs with
  | nil => rfl
  | cons e rest ih =>
    have hone : (RejectionKind.all.map fun k => if e.kind = k then 1 else 0).sum = 1 := by
      cases e.kind <;> rfl
    simp only [List.countP_cons, decide_eq_true_eq]
    rw [List.sum_map_add, ih, hone, List.length_cons]

/-- The counts by kind grow together as the count of rejected requests does. -/
theorem sum_kinds {n : Nat} {os : List Outcome} {before after : Counters} (h : Accounts table n os before after) :
    (RejectionKind.all.map (after.kindFor table)).sum + before.rejectedFor table =
      (RejectionKind.all.map (before.kindFor table)).sum + after.rejectedFor table := by
  have hsum : (RejectionKind.all.map (after.kindFor table)).sum =
      (RejectionKind.all.map (before.kindFor table)).sum + (Outcome.reasons os).length := by
    rw [← sum_countP_kind, ← List.sum_map_add]
    exact congrArg List.sum (List.map_congr_left fun k _ => h.kinds k)
  have hrejected := h.rejected
  omega

end Accounts

end Counters

/-! ## Runs -/

/-- The line about a rejected request that is left out. -/
def LogLine.leftOut (table : String) (e : Nat × Rejection) : LogLine :=
  .skipped e.1 table e.2.notice

/-- Such lines are errors. -/
theorem LogLine.map_level_leftOut (table : String) (es : List (Nat × Rejection)) :
    (es.map (leftOut table)).map level = List.replicate es.length "ERROR" := by
  rw [List.map_map]
  exact List.map_const' ..

namespace Run

variable {table : String} {p : Policy Payload}

/-- Between two states of a run, requests with these outcomes were counted, and the rejected ones among them were
logged with their positions. -/
structure Passed (table : String) (os : List Outcome) (i : Nat) (r r' : Run) : Prop where
  accounts : Counters.Accounts table 0 os r.counters r'.counters
  log : r'.log = r.log ++ (Outcome.rejected os i).map (LogLine.leftOut table)

/-- A stretch of requests behind another is passed along with it. -/
theorem Passed.append {xs ys : List Outcome} {i : Nat} {r₁ r₂ r₃ : Run} (h₁ : Passed table xs i r₁ r₂)
    (h₂ : Passed table ys (i + xs.length) r₂ r₃) : Passed table (xs ++ ys) i r₁ r₃ where
  accounts := h₁.accounts.append h₂.accounts
  log := by rw [h₂.log, h₁.log, List.append_assoc, ← List.map_append, ← Outcome.rejected_append]

/-- A request that does not end the call is passed. -/
theorem step_through {item : Except Rejection Request}
    (h : Outcome.ending? p.failOnError (Update.ofPrepared table p item) = none) (i : Nat) (r : Run) :
    ∃ r', Passed table [Update.ofPrepared table p item] i r r' ∧
      ∀ rest, through table p (item :: rest) i r = through table p rest (i + 1) r' := by
  simp only [through]
  cases ho : Update.ofPrepared table p item with
  | ok u => exact ⟨r.accept table u, ⟨.compile u _, (List.append_nil _).symm⟩, fun _ => rfl⟩
  | error e =>
    rw [ho] at h
    cases e with
    | refused e =>
      cases hmode : p.failOnError with
      | true => simp [Outcome.ending?, hmode] at h
      | false => exact ⟨r.skip table i e, ⟨.reject e _, rfl⟩, fun _ => rfl⟩
    | fault f => cases h

/-- A request that ends the call is counted if it is rejected, and nothing is logged for it. -/
theorem end_through {item : Except Rejection Request} {failure : Failure}
    (h : Outcome.ending? p.failOnError (Update.ofPrepared table p item) = some failure) (i : Nat) (r : Run) :
    ∃ r', Counters.Accounts table 0 [Update.ofPrepared table p item] r.counters r'.counters ∧ r'.log = r.log ∧
      ∀ rest, through table p (item :: rest) i r = (r', some failure) := by
  simp only [through]
  cases ho : Update.ofPrepared table p item with
  | ok u =>
    rw [ho] at h
    cases h
  | error e =>
    rw [ho] at h
    cases e with
    | refused e =>
      cases hmode : p.failOnError with
      | true =>
        rw [hmode] at h
        obtain rfl := Option.some.inj h
        exact ⟨r.count table e, .reject e _, rfl, fun _ => rfl⟩
      | false => simp [Outcome.ending?, hmode] at h
    | fault f =>
      obtain rfl := Option.some.inj h
      exact ⟨r, .fault f _, rfl, fun _ => rfl⟩

/-- Requests of which none ends the call are passed, and the run goes on behind them. -/
theorem pass_through {items : List (Except Rejection Request)}
    (h : ∀ item ∈ items, Outcome.ending? p.failOnError (Update.ofPrepared table p item) = none) (i : Nat)
    (r : Run) : ∃ r', Passed table (items.map (Update.ofPrepared table p)) i r r' ∧
      ∀ rest, through table p (items ++ rest) i r = through table p rest (i + items.length) r' := by
  induction items generalizing i r with
  | nil => exact ⟨r, ⟨.refl _, (List.append_nil _).symm⟩, fun _ => rfl⟩
  | cons item items ih =>
    obtain ⟨r₁, hpassed₁, hstep⟩ := step_through (h item List.mem_cons_self) i r
    obtain ⟨r₂, hpassed₂, hrun⟩ := ih (fun item hitem => h item (List.mem_cons_of_mem _ hitem)) (i + 1) r₁
    refine ⟨r₂, hpassed₁.append hpassed₂, fun rest => ?_⟩
    rw [List.cons_append, hstep, hrun, List.length_cons, Nat.add_assoc, Nat.add_comm 1]

end Run

/-! ## Batches -/

namespace Batch

variable (b : Batch) {items : List (Except Rejection Request)}

/-- A batch of which no request ends the call is closed with all of its requests in the books, and what it returns
is what was counted. -/
theorem reportOn_of_passed {os : List Outcome} (hos : items.map (Update.ofPrepared b.table b.policy) = os)
    (hnone : ∀ o ∈ os, Outcome.ending? b.policy.failOnError o = none) (c : Counters) :
    (b.reportOn items c).result = .ok ⟨Outcome.accepted os, Outcome.rejected os 0⟩ ∧
      Counters.Accounts b.table 1 os c (b.reportOn items c).counters ∧
      (b.reportOn items c).log = (Outcome.rejected os 0).map (LogLine.leftOut b.table) ++
        [.summary (Outcome.accepted os).length os.length b.table] := by
  subst hos
  obtain ⟨r, hpassed, hrun⟩ :=
    Run.pass_through (fun item hitem => hnone _ (List.mem_map_of_mem hitem)) 0 (Run.start c)
  have hend : Run.through b.table b.policy items 0 (.start c) = (r, none) := by
    simpa [Run.through] using hrun []
  obtain ⟨hoperations, hfailures⟩ := Run.fst_through (congrArg Prod.snd hend)
  rw [hend] at hoperations hfailures
  rw [reportOn, hend]
  refine ⟨?_, ?_, ?_⟩
  · show Except.ok (BatchResult.mk r.operations r.failures) = Except.ok (BatchResult.mk _ _)
    rw [hoperations, hfailures]
    rfl
  · exact hpassed.accounts.close
  · show r.log ++ [.summary r.operations.length items.length b.table] = _
    rw [hpassed.log, hoperations, List.length_map]
    rfl

/-- A batch of which a request ends the call is closed at that request. -/
theorem reportOn_of_ended {before after : List Outcome} {o : Outcome} {failure : Failure}
    (hsplit : items.map (Update.ofPrepared b.table b.policy) = before ++ o :: after)
    (hnone : ∀ x ∈ before, Outcome.ending? b.policy.failOnError x = none)
    (hsome : Outcome.ending? b.policy.failOnError o = some failure) (c : Counters) :
    (b.reportOn items c).result = .error failure ∧
      Counters.Accounts b.table 1 (before ++ [o]) c (b.reportOn items c).counters ∧
      (b.reportOn items c).log = (Outcome.rejected before 0).map (LogLine.leftOut b.table) := by
  obtain ⟨front, back, rfl, rfl, hback⟩ := List.map_eq_append_iff.1 hsplit
  obtain ⟨item, rest, rfl, rfl, -⟩ := List.map_eq_cons_iff.1 hback
  obtain ⟨r, hpassed, hrun⟩ := Run.pass_through (List.forall_mem_map.1 hnone) 0 (Run.start c)
  obtain ⟨r', haccounts, hlog, hlast⟩ := Run.end_through hsome (0 + front.length) r
  rw [reportOn, hrun, hlast]
  exact ⟨rfl, (hpassed.accounts.append haccounts).close, hlog.trans hpassed.log⟩

end Batch

/-! ## Calls -/

/-- A call whose policy, table, clock or requests are wrong, or that has a request which is to be rejected for a
reason that cannot be told, does not get to its requests: it ends with a failure, and nothing is counted or logged.
Any other call counts one batch and the requests it gets to, and nothing else. If it returns, these are all of its
requests, the counts are those of what it returns, and the log has a line for each rejected request, in order, and
then the summary. If it does not, they are the requests up to the one that ends it, and the log has a line for each
request that was left out before, and no summary. -/
theorem compileBatch_accounts (table requests policy : Payload) (clock : Moment) (c : Counters) :
    ((∀ p, Policy.ofPayload policy ≠ .ok p) ∨ (∀ t, tableName table ≠ .ok t) ∨
        (∀ stamp, clock.timestamp ≠ .ok stamp) ∨ requests.elements? = none ∨
        (∃ items, requests.elements? = some items ∧ ∃ raw ∈ items, Request.isLegible raw = false) →
      ∃ failure, compileBatch table requests policy clock c = ⟨.error failure, [], c⟩) ∧
    ∀ p t stamp items, Policy.ofPayload policy = .ok p → tableName table = .ok t →
      clock.timestamp = .ok stamp → requests.elements? = some items →
      (∀ raw ∈ items, Request.isLegible raw = true) →
      ∃ report seen, compileBatch table requests policy clock c = report ∧
        Counters.Accounts t 1 (seen.map (outcomeOf t p stamp)) c report.counters ∧
        (RejectionKind.all.map (report.counters.kindFor t)).sum + c.rejectedFor t =
          (RejectionKind.all.map (c.kindFor t)).sum + report.counters.rejectedFor t ∧
        ((∃ res, report.result = .ok res ∧ seen = items ∧
            (∀ raw ∈ items, Outcome.ending? p.failOnError (outcomeOf t p stamp raw) = none) ∧
            report.counters.compiledFor t = c.compiledFor t + res.operations.length ∧
            report.counters.rejectedFor t = c.rejectedFor t + res.failures.length ∧
            report.log = res.failures.map (LogLine.leftOut t) ++
              [.summary res.operations.length items.length t] ∧
            report.log.map LogLine.level = List.replicate res.failures.length "ERROR" ++ ["INFO"]) ∨
          ∃ failure xs raw ys, report.result = .error failure ∧ items = xs ++ raw :: ys ∧ seen = xs ++ [raw] ∧
            (∀ x ∈ xs, Outcome.ending? p.failOnError (outcomeOf t p stamp x) = none) ∧
            Outcome.ending? p.failOnError (outcomeOf t p stamp raw) = some failure ∧
            report.log = (Outcome.rejected (xs.map (outcomeOf t p stamp)) 0).map (LogLine.leftOut t) ∧
            ∀ line ∈ report.log, line.level = "ERROR") := by
  constructor
  · intro hbad
    cases hread : Batch.read table requests policy clock with
    | error failure => exact ⟨failure, by rw [compileBatch, hread]⟩
    | ok b =>
      obtain ⟨p, hpolicy, htable, hclock, hitems, -⟩ := Batch.read_eq_ok_iff.1 hread
      rcases hbad with h | h | h | h | ⟨items, h, raw, hmem, hraw⟩
      · exact absurd hpolicy (h p)
      · exact absurd htable (h b.table)
      · exact absurd hclock (h b.stamp)
      · exact absurd (h.symm.trans hitems) (by simp)
      · exact ⟨_, compileBatch_of_illegible hpolicy htable hclock h hmem hraw c⟩
  · intro p t stamp items hpolicy htable hclock hitems hlegible
    obtain ⟨prepared, houtcomes, hreport⟩ := compileBatch_of_legible hpolicy htable hclock hitems hlegible
    rw [hreport]
    cases hend : items.findSome? fun raw => Outcome.ending? p.failOnError (outcomeOf t p stamp raw) with
    | none =>
      have hnone := List.findSome?_eq_none_iff.1 hend
      obtain ⟨hresult, haccounts, hlog⟩ :=
        Batch.reportOn_of_passed ⟨t, p.effective, stamp, items⟩ houtcomes (List.forall_mem_map.2 hnone) c
      rw [List.length_map] at hlog
      refine ⟨_, items, rfl, haccounts, haccounts.sum_kinds,
        .inl ⟨_, hresult, rfl, hnone, haccounts.compiled, ?_, hlog, ?_⟩⟩
      · rw [haccounts.rejected, ← Outcome.map_snd_rejected _ 0, List.length_map]
      · rw [hlog, List.map_append, LogLine.map_level_leftOut]
        rfl
    | some failure =>
      obtain ⟨xs, raw, ys, rfl, hsome, hnone⟩ := List.findSome?_eq_some_iff.1 hend
      rw [List.map_append, List.map_cons] at houtcomes
      obtain ⟨hresult, haccounts, hlog⟩ := Batch.reportOn_of_ended ⟨t, p.effective, stamp, xs ++ raw :: ys⟩
        houtcomes (List.forall_mem_map.2 hnone) hsome c
      refine ⟨_, xs ++ [raw], rfl, ?_, haccounts.sum_kinds,
        .inr ⟨failure, xs, raw, ys, hresult, rfl, rfl, hnone, hsome, hlog, ?_⟩⟩
      · rw [List.map_append]
        exact haccounts
      · rw [hlog]
        exact List.forall_mem_map.2 fun _ _ => rfl

/-- At the help desk, a call without a table does not get to its requests. A call that leaves rejected requests
out counts one request as compiled and two as rejected, for different reasons, and logs both of them and a
summary. -/
theorem compileBatch_accounts_desk :
    (∃ failure, compileBatch (.text "") (.list deskRequests) (.policy (deskPolicy false)) deskClock .zero =
      ⟨.error failure, [], .zero⟩) ∧
    ∃ report, compileBatch (.text "cases") (.list deskRequests) (.policy (deskPolicy false)) deskClock .zero =
        report ∧
      report.counters.batchesFor "cases" = 1 ∧ report.counters.compiledFor "cases" = 1 ∧
      report.counters.rejectedFor "cases" = 2 ∧
      report.counters.kindFor "cases" .fieldNotWhitelisted = 1 ∧
      report.counters.kindFor "cases" .malformedKey = 1 ∧
      report.log.map LogLine.level = ["ERROR", "ERROR", "INFO"] := by
  have hpolicy : Policy.ofPayload (.policy (deskPolicy false)) = .ok (deskPolicy false) := rfl
  have htable : tableName (.text "cases") = .ok "cases" := rfl
  have hclock : deskClock.timestamp = .ok "2024-02-29T12:00:00.000Z" := rfl
  have hitems : (Payload.list deskRequests).elements? = some deskRequests := rfl
  have hlegible : ∀ raw ∈ deskRequests, Request.isLegible raw = true := by decide +kernel
  have hnone : ∀ raw ∈ deskRequests, (Outcome.ending? (deskPolicy false).failOnError
      (outcomeOf "cases" (deskPolicy false) "2024-02-29T12:00:00.000Z" raw)).isNone = true := by decide +kernel
  constructor
  · exact (compileBatch_accounts (.text "") _ _ _ _).1 (.inr (.inl (by rintro t ⟨⟩)))
  · obtain ⟨report, seen, hreport, haccounts, -, hend⟩ :=
      (compileBatch_accounts (.text "cases") _ _ _ .zero).2 _ _ _ _ hpolicy htable hclock hitems hlegible
    rcases hend with ⟨res, -, rfl, -, -, hrejected, -, hlevels⟩ |
      ⟨failure, xs, raw, ys, -, hsplit, -, -, hsome, -⟩
    · have hreasons : (Outcome.reasons (deskRequests.map
          (outcomeOf "cases" (deskPolicy false) "2024-02-29T12:00:00.000Z"))).map Rejection.kind =
            [.fieldNotWhitelisted, .malformedKey] := by decide +kernel
      have hkinds : ∀ k, report.counters.kindFor "cases" k =
          [RejectionKind.fieldNotWhitelisted, .malformedKey].countP (· = k) := by
        intro k
        rw [haccounts.kinds, ← hreasons, List.countP_map]
        exact Nat.zero_add _
      have hcount : report.counters.rejectedFor "cases" = 2 := by
        rw [haccounts.rejected, ← List.length_map Rejection.kind, hreasons]
        rfl
      have hfailures : res.failures.length = 2 := by
        rw [hcount] at hrejected
        exact (hrejected.trans (Nat.zero_add _)).symm
      refine ⟨report, hreport, haccounts.batches, ?_, hcount, hkinds _, hkinds _, ?_⟩
      · rw [haccounts.compiled]
        decide +kernel
      · rw [hlevels, hfailures]
        rfl
    · have hraw := hnone raw (hsplit ▸ List.mem_append_right _ List.mem_cons_self)
      rw [hsome] at hraw
      cases hraw

/-- The policy of a desk with a rule of its own for the status of a case, which no status keeps to: the rule rejects
the request as none of the kinds of rejection. -/
def ruledPolicy : Policy Payload :=
  { deskPolicy true with
    checks := some [(.text "status", [.own ⟨"closed", 0, fun _ => .error (.unkinded ⟨"no", "no"⟩)⟩])] }

/-- A request that a rule rejects as none of the kinds ends the call, and it is not counted with the rejected ones.
A request that is to be rejected for a reason that cannot be told ends the call as well, and no batch is counted. -/
theorem compileBatch_accounts_unkinded :
    (∃ report, compileBatch (.text "cases") (.list [deskRequest "status"]) (.policy ruledPolicy) deskClock .zero =
        report ∧
      report.result = .error (.fault .noKind) ∧ report.counters.batchesFor "cases" = 1 ∧
      report.counters.rejectedFor "cases" = 0 ∧ report.log = []) ∧
    compileBatch (.text "cases") (.list [longRequest]) (.policy ruledPolicy) deskClock .zero =
      ⟨.error (.fault .longInteger), [], .zero⟩ := by
  have hpolicy : Policy.ofPayload (.policy ruledPolicy) = .ok ruledPolicy := rfl
  have htable : tableName (.text "cases") = .ok "cases" := rfl
  have hclock : deskClock.timestamp = .ok "2024-02-29T12:00:00.000Z" := rfl
  have hitems : (Payload.list [deskRequest "status"]).elements? = some [deskRequest "status"] := rfl
  constructor
  · obtain ⟨prepared, houtcomes, hreport⟩ :=
      compileBatch_of_legible hpolicy htable hclock hitems (by decide +kernel)
    have hobjects : checkFaultOf? ruledPolicy "2024-02-29T12:00:00.000Z" (deskRequest "status") =
        some (.unkinded ⟨"no", "no"⟩) := by with_unfolding_all rfl
    rw [List.map_singleton, outcomeOf_eq_fault_iff.2 (.inl hobjects), ← List.nil_append [_]] at houtcomes
    obtain ⟨hresult, haccounts, hlog⟩ := Batch.reportOn_of_ended
      ⟨"cases", ruledPolicy.effective, "2024-02-29T12:00:00.000Z", [deskRequest "status"]⟩ houtcomes
      (List.forall_mem_nil _) rfl .zero
    exact ⟨_, hreport .zero, hresult, haccounts.batches, haccounts.rejected, hlog⟩
  · exact compileBatch_of_illegible hpolicy htable hclock rfl List.mem_cons_self isLegible_longRequest .zero

end Amend
