import Amend.Proofs.Batch.Legible

/-!
# The two ways to deal with rejections agree

A policy says whether the first rejected request ends the call or is left out, and nothing that comes of a
single request depends on that (`outcomeOf_failOnError`). So the two calls differ only where a request is
rejected: then the one ends with the very rejection that comes first in what the other returns
(`compileBatch_modes_agree`). A rejection that is found while requests are read counts by its place, like
one that is found by the judgement.

A fault ends both calls. One that is met while requests are read does not count by its place: it comes
before all rejections, as no request has been judged by then.
-/

namespace Amend

/-- What a request comes to does not depend on how rejections are dealt with. -/
theorem outcomeOf_failOnError (table : String) (p : Policy Payload) (b : Bool) (stamp : String)
    (raw : Payload) : outcomeOf table { p with failOnError := b } stamp raw = outcomeOf table p stamp raw := by
  have hcompile : ∀ r : Request, r.compile table { p.effective with failOnError := b } =
      r.compile table p.effective := by
    intro r
    apply Request.compile_congr <;> rfl
  cases hread : Request.ofPayload raw with
  | error e => rw [outcomeOf_of_error hread, outcomeOf_of_error hread]
  | ok r =>
    rw [outcomeOf_of_ofPayload hread, outcomeOf_of_ofPayload hread]
    exact hcompile _

namespace Outcome

/-! ## Results around one request -/

/-- An accepted request ends no call. -/
theorem findSome?_ending?_of_accepted {os : List Outcome} (h : ∀ o ∈ os, ∃ u, o = .ok u)
    (failOnError : Bool) : os.findSome? (ending? failOnError) = none := by
  rw [List.findSome?_eq_none_iff]
  intro o ho
  obtain ⟨u, rfl⟩ := h o ho
  rfl

/-- Where no request is rejected, there are no rejections. -/
theorem rejected_eq_nil {os : List Outcome} (h : ∀ o ∈ os, rejected? o = none) (first : Nat) :
    rejected os first = [] := by
  rw [rejected, List.filterMap_eq_nil_iff]
  intro e he
  rw [h e.1 (List.fst_mem_of_mem_zipIdx he)]
  rfl

/-- Where no request is rejected, it makes no difference whether a rejection ends the call. -/
theorem result_eq_of_not_rejected {os : List Outcome} (h : ∀ o ∈ os, rejected? o = none) :
    result true os = result false os := by
  have hending : os.findSome? (ending? true) = os.findSome? (ending? false) := by
    induction os with
    | nil => rfl
    | cons o rest ih =>
      rw [List.findSome?_cons, List.findSome?_cons, ih fun o ho => h o (List.mem_cons_of_mem _ ho)]
      cases o with
      | ok u => rfl
      | error e =>
        cases e with
        | refused e => cases h _ List.mem_cons_self
        | fault f => rfl
  rw [result, result, hending]

section Split

variable {xs : List Outcome} (h : ∀ o ∈ xs, ∃ u, o = .ok u) (ys : List Outcome)
include h

/-- A fault behind accepted requests ends the call either way. -/
theorem result_of_fault (failOnError : Bool) (f : Fault) :
    result failOnError (xs ++ .error (.fault f) :: ys) = .error (.fault f.whenCounted) := by
  rw [result, List.findSome?_append, findSome?_ending?_of_accepted h]
  rfl

/-- A rejection behind accepted requests ends the call that ends with rejections. -/
theorem result_true_of_refused (e : Rejection) :
    result true (xs ++ .error (.refused e) :: ys) = .error (.rejected e) := by
  rw [result, List.findSome?_append, findSome?_ending?_of_accepted h]
  rfl

/-- A rejection behind accepted requests is the first that the other call returns. -/
theorem head?_failures_of_refused {e : Rejection} {res : BatchResult}
    (hres : result false (xs ++ .error (.refused e) :: ys) = .ok res) :
    res.failures.head? = some (xs.length, e) := by
  obtain ⟨-, rfl⟩ := result_eq_ok_iff.1 hres
  have hxs : rejected xs 0 = [] := by
    refine rejected_eq_nil (fun o ho => ?_) 0
    obtain ⟨u, rfl⟩ := h o ho
    rfl
  show (rejected (xs ++ .error (.refused e) :: ys) 0).head? = _
  rw [rejected_append, hxs, List.nil_append, rejected_cons_refused, Nat.zero_add]
  rfl

end Split

end Outcome

/-! ## Two calls -/

/-- Two calls on the same requests, of which one ends with the first rejection and the other leaves
rejected requests out. If a request is illegible, both end with the fault that says so, whatever else is wrong
with the requests; a request that can be shown never is. Otherwise, if no request is rejected, they come to the same.
If a request is rejected and nothing went wrong before it, the one call ends with its rejection, which is the first
that the other call returns, if it returns. If a request ends in a fault and nothing went wrong before it, both calls
end with that fault. -/
theorem compileBatch_modes_agree {table requests ending leaving : Payload} {clock : Moment}
    {p : Policy Payload} {t stamp : String} {items : List Payload}
    (hending : Policy.ofPayload ending = .ok { p with failOnError := true })
    (hleaving : Policy.ofPayload leaving = .ok { p with failOnError := false })
    (htable : tableName table = .ok t) (hclock : clock.timestamp = .ok stamp)
    (hitems : requests.elements? = some items) (c₁ c₂ : Counters) :
    ((∃ raw ∈ items, Request.isLegible raw = false) →
      (compileBatch table requests ending clock c₁).result = .error (.fault .longInteger) ∧
        (compileBatch table requests leaving clock c₂).result = .error (.fault .longInteger)) ∧
    (∀ raw, Request.IsShown raw → Request.isLegible raw = true) ∧
    ((∀ raw ∈ items, Request.isLegible raw = true) →
      ((∀ raw ∈ items, Outcome.rejected? (outcomeOf t p stamp raw) = none) →
        (compileBatch table requests ending clock c₁).result =
            (compileBatch table requests leaving clock c₂).result ∧
          ∀ res, (compileBatch table requests ending clock c₁).result = .ok res → res.failures = []) ∧
      ∀ xs raw ys, items = xs ++ raw :: ys → (∀ x ∈ xs, ∃ u, outcomeOf t p stamp x = .ok u) →
        (∀ e, outcomeOf t p stamp raw = .error (.refused e) →
          (compileBatch table requests ending clock c₁).result = .error (.rejected e) ∧
            ∀ res, (compileBatch table requests leaving clock c₂).result = .ok res →
              res.failures.head? = some (xs.length, e)) ∧
        ∀ f, outcomeOf t p stamp raw = .error (.fault f) →
          (compileBatch table requests ending clock c₁).result = .error (.fault f.whenCounted) ∧
            (compileBatch table requests leaving clock c₂).result = .error (.fault f.whenCounted)) := by
  refine ⟨fun ⟨raw, hraw, hillegible⟩ => ⟨?_, ?_⟩, fun raw => Request.isLegible_of_isShown, fun hlegible => ?_⟩
  · rw [compileBatch_of_illegible hending htable hclock hitems hraw hillegible]
  · rw [compileBatch_of_illegible hleaving htable hclock hitems hraw hillegible]
  have hfirst : (compileBatch table requests ending clock c₁).result =
      Outcome.result true (items.map (outcomeOf t p stamp)) := by
    rw [compileBatch_result hending htable hclock hitems hlegible,
      List.map_congr_left fun raw _ => outcomeOf_failOnError t p true stamp raw]
  have hsecond : (compileBatch table requests leaving clock c₂).result =
      Outcome.result false (items.map (outcomeOf t p stamp)) := by
    rw [compileBatch_result hleaving htable hclock hitems hlegible,
      List.map_congr_left fun raw _ => outcomeOf_failOnError t p false stamp raw]
  rw [hfirst, hsecond]
  constructor
  · intro hnone
    have houtcomes : ∀ o ∈ items.map (outcomeOf t p stamp), Outcome.rejected? o = none := by
      intro o ho
      obtain ⟨raw, hraw, rfl⟩ := List.mem_map.1 ho
      exact hnone raw hraw
    refine ⟨Outcome.result_eq_of_not_rejected houtcomes, fun res hres => ?_⟩
    obtain ⟨-, rfl⟩ := Outcome.result_eq_ok_iff.1 hres
    exact Outcome.rejected_eq_nil houtcomes 0
  · intro xs raw ys hsplit hxs
    have haccepted : ∀ o ∈ xs.map (outcomeOf t p stamp), ∃ u, o = .ok u := by
      intro o ho
      obtain ⟨x, hx, rfl⟩ := List.mem_map.1 ho
      exact hxs x hx
    rw [hsplit, List.map_append, List.map_cons]
    constructor
    · intro e he
      rw [he]
      refine ⟨Outcome.result_true_of_refused haccepted _ e, fun res hres => ?_⟩
      rw [← List.length_map (outcomeOf t p stamp)]
      exact Outcome.head?_failures_of_refused haccepted _ hres
    · intro f hf
      rw [hf]
      exact ⟨Outcome.result_of_fault haccepted _ true f, Outcome.result_of_fault haccepted _ false f⟩

/-- At the help desk, the second request ends the one call and is the first that the other leaves out,
although the third one is found wrong before it. -/
theorem compileBatch_modes_agree_desk :
    ∃ e, e.kind = .fieldNotWhitelisted ∧
      (compileBatch (.text "cases") (.list deskRequests) (.policy (deskPolicy true)) deskClock
        .zero).result = .error (.rejected e) ∧
      ∀ res, (compileBatch (.text "cases") (.list deskRequests) (.policy (deskPolicy false)) deskClock
        .zero).result = .ok res → res.failures.head? = some (1, e) := by
  have hending : Policy.ofPayload (.policy (deskPolicy true)) =
      .ok { deskPolicy true with failOnError := true } := rfl
  have hleaving : Policy.ofPayload (.policy (deskPolicy false)) =
      .ok { deskPolicy true with failOnError := false } := rfl
  have htable : tableName (.text "cases") = .ok "cases" := rfl
  have hclock : deskClock.timestamp = .ok "2024-02-29T12:00:00.000Z" := rfl
  have hitems : (Payload.list deskRequests).elements? = some deskRequests := rfl
  have hfirst : (outcomeOf "cases" (deskPolicy true) "2024-02-29T12:00:00.000Z"
      (deskRequest "status")).toOption.isSome = true := by decide +kernel
  have hsecond : (Outcome.rejected? (outcomeOf "cases" (deskPolicy true) "2024-02-29T12:00:00.000Z"
      (deskRequest "owner"))).map Rejection.kind = some .fieldNotWhitelisted := by decide +kernel
  obtain ⟨u, hu⟩ := Option.isSome_iff_exists.1 hfirst
  obtain ⟨e, he, hkind⟩ := Option.map_eq_some_iff.1 hsecond
  obtain ⟨-, -, hagree⟩ := compileBatch_modes_agree hending hleaving htable hclock hitems .zero .zero
  obtain ⟨hrejected, -⟩ := (hagree (by decide +kernel)).2 [deskRequest "status"] (deskRequest "owner")
    [.text "open"] rfl (List.forall_mem_singleton.2 ⟨u, toOption_eq_some_iff.1 hu⟩)
  exact ⟨e, hkind, hrejected e (Outcome.rejected?_eq_some_iff.1 he)⟩

/-- A rejected request comes first, and yet the call that ends with the first rejection does not end with it: a later
one is no request and cannot be quoted. -/
theorem compileBatch_modes_agree_untold :
    (Outcome.rejected? (outcomeOf "cases" (deskPolicy true) "2024-02-29T12:00:00.000Z"
        (deskRequest "owner"))).isSome = true ∧
      (compileBatch (.text "cases") (.list [deskRequest "owner", longRequest]) (.policy (deskPolicy true)) deskClock
        .zero).result = .error (.fault .longInteger) := by
  have hpolicy : Policy.ofPayload (.policy (deskPolicy true)) = .ok (deskPolicy true) := rfl
  have htable : tableName (.text "cases") = .ok "cases" := rfl
  have hclock : deskClock.timestamp = .ok "2024-02-29T12:00:00.000Z" := rfl
  refine ⟨by decide +kernel, ?_⟩
  rw [compileBatch_of_illegible hpolicy htable hclock rfl (List.mem_cons_of_mem _ List.mem_cons_self)
    isLegible_longRequest]

end Amend
