import Amend.Proofs.Batch.Collect
import Amend.Proofs.Batch.Legible
import Amend.Proofs.Check

/-!
# Batches that always have a result

Where rejected requests are left out and all checks are decisive, there is one thing only that a caller can pass as
a request and that ends the call: something that is to be rejected for a reason which quotes an integer that is too
long to be written. Without it a batch always has a result (`compileBatch_returns`). It is never a request that can be
shown. What is assigned has been classified before it is checked, so an integer in it is short, and a check ends in a
fault only if it quotes a bound that is too long.
-/

namespace Amend

/-! ## Decisive policies -/

/-- A stock check that comes to a judgement on every value. Of a rule of the caller's own this is not known. -/
def Guard.isDecisive : Guard Payload → Bool
  | .stock check _ => check.isDecisive
  | .own _ => false

/-- A guard that can tell every violation. -/
def Guard.isShowable : Guard Payload → Bool
  | .stock check _ => check.isShowable
  | .own _ => false

/-- The checks of a policy come to a judgement on every value. -/
def Policy.isDecisive (p : Policy Payload) : Bool :=
  (p.checks.getD []).all fun e => e.2.all Guard.isDecisive

/-- The checks of a policy can tell every violation: their bounds can be shown. -/
def Policy.showsBounds (p : Policy Payload) : Bool :=
  (p.checks.getD []).all fun e => e.2.all Guard.isShowable

variable {p : Policy Payload}

/-- What is true of all guards of a policy is true of those of a field. -/
theorem Policy.of_mem_checksFor {test : Guard Payload → Bool}
    (h : ((p.checks.getD []).all fun e => e.2.all test) = true) {field : String} {g : Guard Payload}
    (hg : g ∈ p.checksFor field) : test g = true := by
  rw [checksFor] at hg
  cases hentry : Payload.entry? (p.checks.getD []) field with
  | none =>
    rw [hentry] at hg
    cases hg
  | some gs =>
    rw [hentry] at hg
    obtain ⟨e, he, rfl⟩ := Payload.exists_mem_of_entry? hentry
    exact List.all_eq_true.1 (List.all_eq_true.1 h e he) g hg

/-- A decisive guard on a value ends in a fault only if its violation cannot be told. -/
theorem Guard.judges_run {g : Guard Payload} (h : g.isDecisive = true) (field : String) (v : Value) :
    Judges (g.isShowable = false) (g.run field v) := by
  cases g with
  | own rule => cases h
  | stock check mark =>
    have hcheck := Check.judges_run (c := check) h v
    rw [run]
    cases hrun : check.run v.toPayload with
    | ok _ => exact judges_ok ()
    | error e =>
      cases e with
      | refused violation => exact judges_refused _
      | fault f =>
        rintro _ ⟨⟩
        exact hcheck f hrun

/-- So do decisive guards that are run one after another. -/
theorem judges_runChecks (field : String) (v : Value) {untold : Prop} {gs : List (Guard Payload)}
    (h : ∀ g ∈ gs, g.isDecisive = true ∧ (g.isShowable = false → untold)) :
    Judges untold (runChecks field v gs) := by
  induction gs with
  | nil => exact judges_ok ()
  | cons g rest ih =>
    rw [List.forall_mem_cons] at h
    have hg : Judges untold (g.run field v) := fun f hf =>
      (Guard.judges_run h.1.1 field v f hf).imp_right h.1.2
    exact hg.bind fun _ _ => ih h.2

/-- So do those on all values of a request. -/
theorem judges_checkAssigned (h : p.isDecisive = true) (entries : List (String × Value)) :
    Judges (p.showsBounds = false) (checkAssigned p entries) := by
  induction entries with
  | nil => exact judges_ok ()
  | cons e rest ih =>
    refine (judges_runChecks e.1 e.2 fun g hg => ⟨Policy.of_mem_checksFor h hg, fun hlong => ?_⟩).bind fun _ _ => ih
    refine Bool.eq_false_iff.2 fun hshown => ?_
    exact Bool.false_ne_true (hlong.symm.trans (Policy.of_mem_checksFor hshown hg))

/-- Under a policy with decisive checks, a check ends in a fault only if its violation cannot be told. -/
theorem eq_longInteger_of_checkFaultOf? (h : p.isDecisive = true) {stamp : String} {raw : Payload} {f : Fault}
    (hfault : checkFaultOf? p stamp raw = some f) : f = .longInteger ∧ p.showsBounds = false := by
  rw [checkFaultOf?] at hfault
  split at hfault
  · rename_i r hr
    have hchecks := judges_checkAssigned (p := p.effective) h (r.withAutoFields p.effective stamp).assign.entries
    rw [Request.checkFault?] at hfault
    split at hfault
    · rename_i g hnone hg
      cases hfault
      exact hchecks f hg
    · cases hfault
  · cases hfault

/-! ## Batches -/

/-- A name that is not empty is the name of a table. -/
theorem tableName_text {table : String} (h : table ≠ "") : tableName (.text table) = .ok table := by
  rw [tableName, if_neg (by simpa using h)]

/-- There are no other kinds of rejection. -/
theorem RejectionKind.mem_all (k : RejectionKind) : k ∈ all := by
  cases k <;> decide

/-- A batch whose policy has rejected requests left out, and whose checks are decisive. It has a result, whatever
its requests are, if every reason to reject one of them can be told: the rejected requests are listed with their
positions, each for its own reason, and all others are compiled. If there is a reason that cannot be told, the call
ends in the fault that says so. Where the bounds of the checks can be shown, this is never for a check, and of a request
that can be shown every reason can be told. -/
theorem compileBatch_returns {table stamp : String} {requests policy : Payload} {clock : Moment}
    {items : List Payload} (htable : table ≠ "") (hpolicy : Policy.ofPayload policy = .ok p)
    (hmode : p.failOnError = false) (hdecisive : p.isDecisive = true)
    (hclock : clock.timestamp = .ok stamp) (hitems : requests.elements? = some items) (c : Counters) :
    ((∀ raw ∈ items, isTold p stamp raw = true ∧ checkFaultOf? p stamp raw = none) →
      ∃ res, (compileBatch (.text table) requests policy clock c).result = .ok res ∧
        res.operations.length + res.failures.length = items.length ∧
        (∀ i e, (i, e) ∈ res.failures ↔
          ∃ raw, items[i]? = some raw ∧ outcomeOf table p stamp raw = .error (.refused e)) ∧
        ∀ e ∈ res.failures, e.2.kind ∈ RejectionKind.all) ∧
    ((∃ raw ∈ items, isTold p stamp raw = false ∨ checkFaultOf? p stamp raw ≠ none) →
      (compileBatch (.text table) requests policy clock c).result = .error (.fault .longInteger)) ∧
    (p.showsBounds = true → ∀ raw, checkFaultOf? p stamp raw = none) ∧
    ∀ raw, Request.IsShown raw → isTold p stamp raw = true := by
  have hlong : ∀ raw f, checkFaultOf? p stamp raw = some f → f = .longInteger := fun raw f hf =>
    (eq_longInteger_of_checkFaultOf? hdecisive hf).1
  refine ⟨fun htold => ?_, fun ⟨raw, hraw, huntold⟩ => ?_, fun hshown raw => ?_, fun raw => isTold_of_isShown⟩
  · have hnone : ∀ raw ∈ items, ∀ f, outcomeOf table p stamp raw ≠ .error (.fault f) := by
      intro raw hraw f hf
      obtain ⟨htold, hcheck⟩ := htold raw hraw
      rcases outcomeOf_eq_fault_iff.1 hf with hfault | ⟨huntold, -⟩
      · cases hcheck.symm.trans hfault
      · exact Bool.false_ne_true (huntold.symm.trans htold)
    refine ⟨_, compileBatch_of_noFault hpolicy hmode (tableName_text htable) hclock hitems hnone c, ?_, ?_, ?_⟩
    · rw [Outcome.length_accepted_add_length_rejected (List.forall_mem_map.2 hnone), List.length_map]
    · intro i e
      rw [Outcome.mem_rejected_iff, List.getElem?_map, Option.map_eq_some_iff]
    · exact fun e _ => e.2.kind.mem_all
  · refine compileBatch_of_longInteger hpolicy hmode (tableName_text htable) hclock hitems ?_
      ⟨raw, hraw, outcomeOf_eq_fault_iff.2 ?_⟩ c
    · intro x _ f hf
      exact (outcomeOf_eq_fault_iff.1 hf).elim (hlong x f) And.right
    · rcases huntold with huntold | hcheck
      · exact .inr ⟨huntold, rfl⟩
      · obtain ⟨f, hf⟩ := Option.ne_none_iff_exists'.1 hcheck
        exact .inl (hf.trans (congrArg some (hlong raw f hf)))
  · refine Option.eq_none_iff_forall_ne_some.2 fun f hf => ?_
    exact Bool.false_ne_true ((eq_longInteger_of_checkFaultOf? hdecisive hf).2.symm.trans hshown)

/-- The policy of a shop: prices and places are checked. -/
def shopPolicy : Policy Payload where
  rules := .ofList [(.assign, .everything)]
  autoTimestamp := false
  autoVersion := false
  failOnError := false
  checks := some
    [(.text "price", [.stock (.currency none) none,
        .stock (.range (.int 1) (.number (.decimal (.finite false 9950 (-2)))) none) (some 0)]),
      (.text "place", [.stock .geopoint none])]

/-- A request to set a field of an offer. -/
def shopRequest (partition : Payload) (field : String) (v : Payload) : Payload :=
  .mapping [(.text "key", .mapping [(.text "pk", partition), (.text "sk", .int 1)]),
    (.text "set", .mapping [(.text field, v)])]

/-- Requests of which only the first is in order. The fourth has a key that is too large. -/
def shopRequests : List Payload :=
  [shopRequest (.text "offer") "price" (.number (.decimal (.finite false 1250 (-2)))),
    shopRequest (.text "offer") "price" (.number (.double (.nan 0))),
    shopRequest (.text "offer") "place" (.mapping [(.text "type", .text "Point"),
      (.text "coordinates", .tuple [.int 200, .null])]),
    shopRequest (.int (10 ^ 40)) "price" (.int 12),
    .mapping [(.number (.decimal (.nan false false 7 0)), .set [.null])],
    .bytes [1, 2, 3]]

/-- Whatever else the shop is asked for, the first offer is changed. -/
theorem compileBatch_returns_shop :
    ∃ res, (compileBatch (.text "offers") (.list shopRequests) (.policy shopPolicy) deskClock .zero).result =
        .ok res ∧
      res.operations.length + res.failures.length = 6 ∧ (∀ e, (0, e) ∉ res.failures) ∧
      ∃ e, (3, e) ∈ res.failures ∧ e.kind = .unsupportedValue := by
  have htable : "offers" ≠ "" := by decide
  have hpolicy : Policy.ofPayload (.policy shopPolicy) = .ok shopPolicy := rfl
  have hclock : deskClock.timestamp = .ok "2024-02-29T12:00:00.000Z" := rfl
  have hitems : (Payload.list shopRequests).elements? = some shopRequests := rfl
  obtain ⟨hreturns, -, hchecks, -⟩ := compileBatch_returns htable hpolicy rfl (by decide) hclock hitems .zero
  have htold : ∀ raw ∈ shopRequests, isTold shopPolicy "2024-02-29T12:00:00.000Z" raw = true := by decide +kernel
  obtain ⟨res, hres, hlength, hfailures, -⟩ :=
    hreturns fun raw hraw => ⟨htold raw hraw, hchecks (by decide) raw⟩
  refine ⟨res, hres, hlength, ?_, ?_⟩
  · intro e he
    obtain ⟨raw, hraw, houtcome⟩ := (hfailures 0 e).1 he
    obtain rfl := Option.some.inj hraw
    have haccepted : (Outcome.accepted? (outcomeOf "offers" shopPolicy "2024-02-29T12:00:00.000Z"
        (shopRequest (.text "offer") "price" (.number (.decimal (.finite false 1250 (-2))))))).isSome =
          true := by decide +kernel
    rw [houtcome] at haccepted
    cases haccepted
  · have hkind : (Outcome.rejected? (outcomeOf "offers" shopPolicy "2024-02-29T12:00:00.000Z"
        (shopRequest (.int (10 ^ 40)) "price" (.int 12)))).map Rejection.kind =
          some .unsupportedValue := by decide +kernel
    obtain ⟨e, he, hkind⟩ := Option.map_eq_some_iff.1 hkind
    exact ⟨e, (hfailures 3 e).2 ⟨_, rfl, Outcome.rejected?_eq_some_iff.1 he⟩, hkind⟩

/-- A number of five thousand and one digits as part of a key is too large for the store, and too long for the answer
that would say so: the shop changes nothing. So does a request that is such a number. -/
theorem compileBatch_returns_untold :
    (compileBatch (.text "offers") (.list [shopRequest (.int (10 ^ 5000)) "price" (.int 12)]) (.policy shopPolicy)
        deskClock .zero).result = .error (.fault .longInteger) ∧
      (compileBatch (.text "offers") (.list [longRequest]) (.policy shopPolicy) deskClock .zero).result =
        .error (.fault .longInteger) := by
  have hpolicy : Policy.ofPayload (.policy shopPolicy) = .ok shopPolicy := rfl
  have htable : tableName (.text "offers") = .ok "offers" := rfl
  have hclock : deskClock.timestamp = .ok "2024-02-29T12:00:00.000Z" := rfl
  constructor
  · have huntold : isTold shopPolicy "2024-02-29T12:00:00.000Z"
        (shopRequest (.int (10 ^ 5000)) "price" (.int 12)) = false := by decide +kernel
    refine compileBatch_of_longInteger hpolicy rfl htable hclock rfl (List.forall_mem_singleton.2 fun f hf => ?_)
      ⟨_, List.mem_cons_self, outcomeOf_eq_fault_iff.2 (.inr ⟨huntold, rfl⟩)⟩ .zero
    exact (outcomeOf_eq_fault_iff.1 hf).elim
      (fun hcheck => (eq_longInteger_of_checkFaultOf? (by decide) hcheck).1) And.right
  · rw [compileBatch_of_illegible hpolicy htable hclock rfl List.mem_cons_self isLegible_longRequest]

end Amend
