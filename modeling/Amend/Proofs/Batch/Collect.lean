import Amend.Proofs.Batch.Outcome

/-!
# Leaving rejected requests out

Where a policy has rejected requests left out, a batch loses nothing, duplicates nothing, and lets no
request affect another: what it returns are the updates of the accepted requests and the reasons of the
rejected ones, each in order, and each request is one or the other (`compileBatch_collects`). So a batch
can be split anywhere, and its parts compiled by themselves.

This takes that every reason can be told. If one quotes an integer that is too long to be written, the
call ends there, and nothing is returned for the other requests either.
-/

namespace Amend

namespace Outcome

variable {os : List Outcome}

/-- Where rejections do not end a call, only faults do. -/
theorem findSome?_ending?_eq_none (h : ∀ o ∈ os, ∀ f, o ≠ .error (.fault f)) :
    os.findSome? (ending? false) = none := by
  rw [List.findSome?_eq_none_iff]
  intro o ho
  cases o with
  | ok u => rfl
  | error e =>
    cases e with
    | refused e => rfl
    | fault f => exact absurd rfl (h _ ho f)

/-- Where rejections do not end a call, the first fault does; so if all faults are the same, it is that one. -/
theorem findSome?_ending?_of_fault {f : Fault} (hmem : .error (.fault f) ∈ os)
    (hall : ∀ g, .error (.fault g) ∈ os → g = f) :
    os.findSome? (ending? false) = some (.fault f.whenCounted) := by
  induction os with
  | nil => cases hmem
  | cons o rest ih =>
    have hrest : ∀ g, .error (.fault g) ∈ rest → g = f := fun g hg => hall g (List.mem_cons_of_mem _ hg)
    rw [List.findSome?_cons]
    cases o with
    | ok u => exact ih ((List.mem_cons.1 hmem).resolve_left nofun) hrest
    | error e =>
      cases e with
      | refused e => exact ih ((List.mem_cons.1 hmem).resolve_left nofun) hrest
      | fault g =>
        rw [hall g List.mem_cons_self]
        rfl

/-- Each request is accepted or rejected, if none ends in a fault. -/
theorem length_accepted_add_length_rejected (h : ∀ o ∈ os, ∀ f, o ≠ .error (.fault f)) (first : Nat) :
    (accepted os).length + (rejected os first).length = os.length := by
  induction os generalizing first with
  | nil => rfl
  | cons o rest ih =>
    have hrest := ih (fun o ho => h o (List.mem_cons_of_mem _ ho)) (first + 1)
    cases o with
    | ok u =>
      rw [accepted_cons_ok, rejected_cons_ok, List.length_cons, List.length_cons]
      omega
    | error e =>
      cases e with
      | refused e =>
        rw [accepted_cons_error, rejected_cons_refused, List.length_cons, List.length_cons]
        omega
      | fault f => exact absurd rfl (h _ List.mem_cons_self f)

/-- Positions may be counted from elsewhere. -/
theorem rejected_add (os : List Outcome) (first shift : Nat) :
    rejected os (shift + first) = (rejected os first).map fun e => (e.1 + shift, e.2) := by
  induction os generalizing first with
  | nil => rfl
  | cons o rest ih =>
    have hrest := ih (first + 1)
    rw [← Nat.add_assoc] at hrest
    cases o with
    | ok u => exact hrest
    | error e =>
      cases e with
      | refused e =>
        rw [rejected_cons_refused, rejected_cons_refused, hrest, List.map_cons, Nat.add_comm shift]
      | fault f => exact hrest

end Outcome

section Leaving

variable {table requests policy : Payload} {clock : Moment} {p : Policy Payload} {t stamp : String}
  {items : List Payload} (hpolicy : Policy.ofPayload policy = .ok p) (hmode : p.failOnError = false)
  (htable : tableName table = .ok t) (hclock : clock.timestamp = .ok stamp)
  (hitems : requests.elements? = some items)
include hpolicy hmode htable hclock hitems

/-- Where no request ends in a fault, the batch returns the updates of the accepted requests and the reasons of the
rejected ones. -/
theorem compileBatch_of_noFault (hnone : ∀ raw ∈ items, ∀ f, outcomeOf t p stamp raw ≠ .error (.fault f))
    (c : Counters) : (compileBatch table requests policy clock c).result =
      .ok ⟨Outcome.accepted (items.map (outcomeOf t p stamp)),
        Outcome.rejected (items.map (outcomeOf t p stamp)) 0⟩ := by
  have hlegible : ∀ raw ∈ items, Request.isLegible raw = true := fun raw hraw =>
    Bool.of_not_eq_false fun h =>
      hnone raw hraw .longInteger (outcomeOf_eq_fault_iff.2 (.inr ⟨isTold_of_illegible h, rfl⟩))
  rw [compileBatch_result hpolicy htable hclock hitems hlegible, hmode, Outcome.result_eq_ok_iff]
  exact ⟨Outcome.findSome?_ending?_eq_none (List.forall_mem_map.2 hnone), rfl⟩

/-- Where a request ends in a fault, and no request in another one than that a reason cannot be told, the call ends
in that fault. -/
theorem compileBatch_of_longInteger
    (hlong : ∀ raw ∈ items, ∀ f, outcomeOf t p stamp raw = .error (.fault f) → f = .longInteger)
    (hfault : ∃ raw ∈ items, outcomeOf t p stamp raw = .error (.fault .longInteger)) (c : Counters) :
    (compileBatch table requests policy clock c).result = .error (.fault .longInteger) := by
  rcases legible_or_exists_illegible items with hlegible | ⟨raw, hraw, hillegible⟩
  · obtain ⟨raw, hraw, hfault⟩ := hfault
    have hmem : Except.error (.fault .longInteger) ∈ items.map (outcomeOf t p stamp) :=
      List.mem_map.2 ⟨raw, hraw, hfault⟩
    have hending := Outcome.findSome?_ending?_of_fault hmem fun g hg => by
      obtain ⟨x, hx, hg⟩ := List.mem_map.1 hg
      exact hlong x hx g hg
    rw [compileBatch_result hpolicy htable hclock hitems hlegible, hmode, Outcome.result, hending]
    rfl
  · rw [compileBatch_of_illegible hpolicy htable hclock hitems hraw hillegible]

/-- A batch in which no check ends in a fault, under a policy that has rejected requests left out. If every
reason to reject a request can be told, it returns the updates of the accepted requests and the reasons of the
rejected ones with their positions, in order, and no request is lost; and its requests may as well be compiled in
two batches, one behind the other. If there is a reason that cannot be told, it returns nothing. -/
theorem compileBatch_collects (hfaults : ∀ raw ∈ items, checkFaultOf? p stamp raw = none) (c : Counters) :
    ((∀ raw ∈ items, isTold p stamp raw = true) →
      ∃ res, (compileBatch table requests policy clock c).result = .ok res ∧
        res.operations = items.filterMap (fun raw => Outcome.accepted? (outcomeOf t p stamp raw)) ∧
        res.failures = items.zipIdx.filterMap (fun e =>
          (Outcome.rejected? (outcomeOf t p stamp e.1)).map fun r => (e.2, r)) ∧
        res.operations.length + res.failures.length = items.length ∧
        ∀ xs ys front back c₁ c₂, items = xs ++ ys → front.elements? = some xs → back.elements? = some ys →
          ∃ res₁ res₂, (compileBatch table front policy clock c₁).result = .ok res₁ ∧
            (compileBatch table back policy clock c₂).result = .ok res₂ ∧
            res.operations = res₁.operations ++ res₂.operations ∧
            res.failures = res₁.failures ++ res₂.failures.map fun e => (e.1 + xs.length, e.2)) ∧
    ((∃ raw ∈ items, isTold p stamp raw = false) →
      (compileBatch table requests policy clock c).result = .error (.fault .longInteger)) := by
  have hlong : ∀ raw ∈ items, ∀ f, outcomeOf t p stamp raw = .error (.fault f) →
      isTold p stamp raw = false ∧ f = .longInteger := by
    intro raw hraw f hf
    refine (outcomeOf_eq_fault_iff.1 hf).resolve_left fun hcheck => ?_
    rw [hfaults raw hraw] at hcheck
    cases hcheck
  constructor
  · intro htold
    have hnone : ∀ raw ∈ items, ∀ f, outcomeOf t p stamp raw ≠ .error (.fault f) := fun raw hraw f hf =>
      Bool.false_ne_true ((hlong raw hraw f hf).1.symm.trans (htold raw hraw))
    refine ⟨_, compileBatch_of_noFault hpolicy hmode htable hclock hitems hnone c, ?_, ?_, ?_, ?_⟩
    · exact List.filterMap_map
    · rw [Outcome.rejected, List.zipIdx_map, List.filterMap_map]
      rfl
    · rw [Outcome.length_accepted_add_length_rejected (List.forall_mem_map.2 hnone), List.length_map]
    · intro xs ys front back c₁ c₂ hsplit hfront hback
      subst hsplit
      rw [List.forall_mem_append] at hnone
      -- neither part has a fault that could end its call
      refine ⟨_, _, compileBatch_of_noFault hpolicy hmode htable hclock hfront hnone.1 c₁,
        compileBatch_of_noFault hpolicy hmode htable hclock hback hnone.2 c₂, ?_, ?_⟩
      · rw [List.map_append, Outcome.accepted_append]
      · have hshift := Outcome.rejected_add (ys.map (outcomeOf t p stamp)) 0 xs.length
        rw [List.map_append, Outcome.rejected_append, List.length_map, Nat.zero_add, ← hshift, Nat.add_zero]
  · rintro ⟨raw, hraw, huntold⟩
    exact compileBatch_of_longInteger hpolicy hmode htable hclock hitems
      (fun x hx f hf => (hlong x hx f hf).2)
      ⟨raw, hraw, outcomeOf_eq_fault_iff.2 (.inr ⟨huntold, rfl⟩)⟩ c

end Leaving

/-- Of three requests at the help desk, the first is accepted and the others are left out. -/
theorem compileBatch_collects_desk :
    ∃ res, (compileBatch (.text "cases") (.list deskRequests) (.policy (deskPolicy false)) deskClock
        .zero).result = .ok res ∧
      res.operations.length + res.failures.length = 3 ∧ res.failures.map Prod.fst = [1, 2] := by
  have hpolicy : Policy.ofPayload (.policy (deskPolicy false)) = .ok (deskPolicy false) := rfl
  have htable : tableName (.text "cases") = .ok "cases" := rfl
  have hclock : deskClock.timestamp = .ok "2024-02-29T12:00:00.000Z" := rfl
  have hitems : (Payload.list deskRequests).elements? = some deskRequests := rfl
  obtain ⟨res, hres, -, hfailures, hlength, -⟩ :=
    (compileBatch_collects hpolicy rfl htable hclock hitems (by decide +kernel) .zero).1 (by decide +kernel)
  refine ⟨res, hres, hlength, ?_⟩
  rw [hfailures]
  decide +kernel

/-- An integer that cannot be quoted is no request, and neither is it rejected nor is anything returned for the
request before it. -/
theorem compileBatch_collects_untold :
    Outcome.rejected? (outcomeOf "cases" (deskPolicy false) "2024-02-29T12:00:00.000Z" longRequest) = none ∧
      (compileBatch (.text "cases") (.list [deskRequest "status", longRequest]) (.policy (deskPolicy false))
        deskClock .zero).result = .error (.fault .longInteger) := by
  have hpolicy : Policy.ofPayload (.policy (deskPolicy false)) = .ok (deskPolicy false) := rfl
  have htable : tableName (.text "cases") = .ok "cases" := rfl
  have hclock : deskClock.timestamp = .ok "2024-02-29T12:00:00.000Z" := rfl
  constructor
  · rw [outcomeOf_eq_fault_iff.2 (.inr ⟨isTold_of_illegible isLegible_longRequest, rfl⟩)]
    rfl
  · rw [compileBatch_of_illegible hpolicy htable hclock rfl (List.mem_cons_of_mem _ List.mem_cons_self)
      isLegible_longRequest]

end Amend
