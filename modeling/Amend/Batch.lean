import Amend.Calendar.Moment
import Amend.Counters
import Amend.Failure
import Amend.Policy.Payload
import Amend.Request.Bookkeeping
import Amend.Update

/-!
# Batches

A batch of requests is compiled under one policy and one timestamp, in two passes. The first pass reads
every request and gives it its bookkeeping fields, and keeps the reason where a request cannot be read.
The second pass judges and compiles what the first one left. What it makes of a rejection, whichever pass
found it, depends on the policy: either the first rejection ends the call, or rejections are logged and
listed and the rest go through. A fault always ends the call: one in the first pass before anything is
counted, one in the second where it is met.
-/

namespace Amend

/-! ## The two passes over one request -/

/-- What the first pass makes of a request that cannot be read: a reason is kept, and a fault ends the call. -/
def OrFault.kept {ε α : Type} : OrFault ε → Except Fault (Except ε α)
  | .refused reason => .ok (.error reason)
  | .fault f => .error f

/-- A request that is ready to be judged: it is read and has its bookkeeping fields. -/
def Request.prepare (p : Policy Payload) (stamp : String) (raw : Payload) :
    Except Fault (Except Rejection Request) :=
  match Request.of raw with
  | .ok r => .ok (.ok (r.withAutoFields p stamp))
  | .error e => e.kept

/-- The update for a prepared request. One that could not be read is rejected for the reason that was kept. -/
def Update.ofPrepared (table : String) (p : Policy Payload) :
    Except Rejection Request → Except (OrFault Rejection) Update
  | .ok r => r.compile table p
  | .error rejection => .error (.refused rejection)

/-! ## Logs -/

/-- A line of the log. -/
inductive LogLine where
  | skipped (index : Nat) (table : String) (notice : Notice)
  | summary (compiled total : Nat) (table : String)

namespace LogLine

/-- How grave a line is. -/
def level : LogLine → String
  | .skipped .. => "ERROR"
  | .summary .. => "INFO"

/-- The wording of a line. -/
def message : LogLine → String
  | .skipped index table notice =>
    "Skipping update request " ++ toString index ++ " for table " ++ table ++ ": " ++ notice.message ++
      " (" ++ notice.detail ++ ")"
  | .summary compiled total table =>
    "Compiled " ++ toString compiled ++ " of " ++ toString total ++ " update requests for table " ++
      table

end LogLine

/-! ## Runs -/

/-- What a batch has come to: the updates so far, the requests left out with their positions, the log
and the counters. -/
structure Run where
  operations : List Update
  failures : List (Nat × Rejection)
  log : List LogLine
  counters : Counters

namespace Run

/-- A run that has not started. -/
def start (c : Counters) : Run := ⟨[], [], [], c⟩

/-- The run after a compiled request. -/
def accept (r : Run) (table : String) (u : Update) : Run :=
  { r with operations := r.operations ++ [u], counters := r.counters.compiled table }

/-- The run in which a rejected request is counted. -/
def count (r : Run) (table : String) (rejection : Rejection) : Run :=
  { r with counters := r.counters.rejected table rejection.kind.label }

/-- The run after a rejected request that is left out. -/
def skip (r : Run) (table : String) (index : Nat) (rejection : Rejection) : Run :=
  { r.count table rejection with
    failures := r.failures ++ [(index, rejection)]
    log := r.log ++ [.skipped index table rejection.notice] }

/-- The run over prepared requests from a position on, and the failure that ends it early, if one does. -/
def through (table : String) (p : Policy Payload) :
    List (Except Rejection Request) → Nat → Run → Run × Option Failure
  | [], _, r => (r, none)
  | item :: rest, i, r =>
    match Update.ofPrepared table p item with
    | .ok u => through table p rest (i + 1) (r.accept table u)
    | .error (.refused rejection) =>
      if p.failOnError then (r.count table rejection, some (.rejected rejection))
      else through table p rest (i + 1) (r.skip table i rejection)
    | .error (.fault f) => (r, some (.fault f.whenCounted))

end Run

/-! ## Batches -/

/-- The result of a batch: its updates, and the requests left out with their positions. -/
structure BatchResult where
  operations : List Update
  failures : List (Nat × Rejection)

/-- All that a call on a batch leaves behind. -/
structure Report where
  result : Except Failure BatchResult
  log : List LogLine
  counters : Counters

/-- The name of a table, which must not be empty. -/
def tableName : Payload → Except PolicyError String
  | .text s => if s.isEmpty then .error (.badTable (.text s)) else .ok s
  | p => .error (.badTable p)

/-- A batch that is ready to be compiled: its policy permits the bookkeeping fields, and one timestamp
serves all of its requests. -/
structure Batch where
  table : String
  policy : Policy Payload
  stamp : String
  requests : List Payload

namespace Batch

/-- The batch that a call passes, looked at in the order policy, table, clock, requests. -/
def read (table requests policy : Payload) (clock : Moment) : Except Failure Batch := do
  let p ← (Policy.ofPayload policy).mapError Failure.ofPolicy
  let t ← (orRefuse (tableName table)).mapError Failure.ofPolicy
  let stamp ← clock.timestamp.mapError Failure.fault
  match requests.elements? with
  | some items => return ⟨t, p.effective, stamp, items⟩
  | none => throw (.fault (.notIterable requests.type))

/-- The requests of a batch, ready to be judged. All of them are prepared before any is judged. -/
def prepared (b : Batch) : Except Fault (List (Except Rejection Request)) :=
  b.requests.mapM (Request.prepare b.policy b.stamp)

/-- The report on the prepared requests of a batch. The batch is counted however it ends, and summed up in the
log if it comes to its end. -/
def reportOn (b : Batch) (items : List (Except Rejection Request)) (c : Counters) : Report :=
  match Run.through b.table b.policy items 0 (.start c) with
  | (r, some failure) => ⟨.error failure, r.log, r.counters.batch b.table⟩
  | (r, none) =>
    ⟨.ok ⟨r.operations, r.failures⟩, r.log ++ [.summary r.operations.length items.length b.table],
      r.counters.batch b.table⟩

/-- The report on the requests of a batch. -/
def report (b : Batch) (c : Counters) : Report :=
  match b.prepared with
  | .ok items => b.reportOn items c
  | .error f => ⟨.error (.fault f), [], c⟩

end Batch

/-- Compiles a batch of requests. -/
def compileBatch (table requests policy : Payload) (clock : Moment) (c : Counters) : Report :=
  match Batch.read table requests policy clock with
  | .error failure => ⟨.error failure, [], c⟩
  | .ok b => b.report c

end Amend
