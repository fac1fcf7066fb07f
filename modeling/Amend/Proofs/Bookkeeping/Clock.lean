import Amend.Proofs.Batch.Outcome
import Amend.Proofs.Bookkeeping.Injection

/-!
# The clock shows in the time of the update and nowhere else

The timestamp of a batch is the value of an assigned field in each of its requests. Two requests that differ in
the value of one assigned field, for which there are no checks, are judged alike and compiled alike: they are
rejected for one reason, or their updates differ in the value under one placeholder
(`Request.Revalued.alike_compile`). So two calls under two clocks end with one failure, or leave out the same requests
for the same reasons and return the same updates, each with the time of its own clock (`compileBatch_clocks`).
-/

namespace Amend

/-- Two updates are the same but for the value under one placeholder, which is given for each. -/
structure Update.Revalued (placeholder : String) (a₁ a₂ : Attribute) (u₁ u₂ : Update) : Prop where
  table : u₁.table = u₂.table
  key : u₁.key = u₂.key
  expression : u₁.expression = u₂.expression
  names : u₁.names = u₂.names
  condition : u₁.condition = u₂.condition
  placeholders : u₁.values.keys = u₂.values.keys
  values : ∀ other, other ≠ placeholder → u₁.values.get? other = u₂.values.get? other
  first : u₁.values.get? placeholder = some a₁
  second : u₂.values.get? placeholder = some a₂

/-- Two requests are the same but for the value of one assigned field, which is given for each. -/
structure Request.Revalued (field : String) (v₁ v₂ : Value) (r₁ r₂ : Request) : Prop where
  key : r₁.key = r₂.key
  assign : ∃ front back, r₁.assign.entries = front ++ (field, v₁) :: back ∧
    r₂.assign.entries = front ++ (field, v₂) :: back
  remove : r₁.remove = r₂.remove
  increment : r₁.increment = r₂.increment
  append : r₁.append = r₂.append

/-! ## Outcomes -/

/-- Two outcomes are alike: two updates that are related, or the same end without one. -/
inductive Outcome.Alike (R : Update → Update → Prop) : Outcome → Outcome → Prop where
  | accepted {u₁ u₂ : Update} (h : R u₁ u₂) : Alike R (.ok u₁) (.ok u₂)
  | error (e : OrFault Rejection) : Alike R (.error e) (.error e)

namespace Outcome

variable {R : Update → Update → Prop} {os₁ os₂ : List Outcome}

/-- Alike outcomes end a call in the same way. -/
theorem Alike.ending?_eq {o₁ o₂ : Outcome} (h : Alike R o₁ o₂) (failOnError : Bool) :
    ending? failOnError o₁ = ending? failOnError o₂ := by
  cases h with
  | accepted h => rfl
  | error e => rfl

/-- So do lists of them. -/
theorem findSome?_ending?_of_alike (h : List.Forall₂ (Alike R) os₁ os₂) (failOnError : Bool) :
    os₁.findSome? (ending? failOnError) = os₂.findSome? (ending? failOnError) := by
  induction h with
  | nil => rfl
  | cons ho _ ih => rw [List.findSome?_cons, List.findSome?_cons, ho.ending?_eq, ih]

/-- The updates of alike outcomes are related, one by one. -/
theorem forall₂_accepted (h : List.Forall₂ (Alike R) os₁ os₂) :
    List.Forall₂ R (accepted os₁) (accepted os₂) := by
  induction h with
  | nil => exact .nil
  | cons ho _ ih =>
    cases ho with
    | accepted hu => exact .cons hu ih
    | error e => exact ih

/-- Alike outcomes are rejected at the same places, for the same reasons. -/
theorem rejected_of_alike (h : List.Forall₂ (Alike R) os₁ os₂) (first : Nat) :
    rejected os₁ first = rejected os₂ first := by
  induction h generalizing first with
  | nil => rfl
  | cons ho _ ih =>
    cases ho with
    | accepted hu => exact ih (first + 1)
    | error e =>
      cases e with
      | refused e => rw [rejected_cons_refused, rejected_cons_refused, ih]
      | fault f => exact ih (first + 1)

/-- Batches of alike outcomes end with the same failure, or return related updates and leave out the same
requests. -/
theorem result_of_alike (h : List.Forall₂ (Alike R) os₁ os₂) (failOnError : Bool) :
    (∃ failure, result failOnError os₁ = .error failure ∧ result failOnError os₂ = .error failure) ∨
      ∃ res₁ res₂, result failOnError os₁ = .ok res₁ ∧ result failOnError os₂ = .ok res₂ ∧
        res₁.failures = res₂.failures ∧ List.Forall₂ R res₁.operations res₂.operations := by
  rw [result, result, findSome?_ending?_of_alike h]
  cases os₂.findSome? (ending? failOnError) with
  | some failure => exact .inl ⟨failure, rfl, rfl⟩
  | none => exact .inr ⟨_, _, rfl, rfl, rejected_of_alike h 0, forall₂_accepted h⟩

end Outcome

/-! ## Requests -/

namespace Request.Revalued

variable {field : String} {v₁ v₂ : Value} {r₁ r₂ : Request} (h : Revalued field v₁ v₂ r₁ r₂)
include h

/-- The requests name the same fields. -/
theorem fields_eq : r₁.fields = r₂.fields := by
  obtain ⟨front, back, h₁, h₂⟩ := h.assign
  have hkeys : r₁.assign.keys = r₂.assign.keys := by
    rw [OrderedMap.keys, OrderedMap.keys, h₁, h₂, List.map_append, List.map_append]
    rfl
  rw [fields, fields, hkeys, h.remove, h.increment, h.append]

/-- The field is one of them. -/
theorem mem_all : field ∈ r₁.fields.all := by
  obtain ⟨front, back, h₁, -⟩ := h.assign
  rw [Fields.all_eq]
  refine List.mem_append_left _ ?_
  show field ∈ r₁.assign.entries.map Prod.fst
  rw [h₁]
  exact List.mem_map_of_mem (List.mem_append_right _ List.mem_cons_self)

/-- Where the field has no checks, the requests are judged alike. -/
theorem judge_eq {p : Policy Payload} (hfree : p.checksFor field = []) : r₁.judge p = r₂.judge p := by
  obtain ⟨front, back, h₁, h₂⟩ := h.assign
  have hrejection : r₁.rejection? p = r₂.rejection? p := by
    rw [rejection?, rejection?, h.fields_eq, h.increment, h.append]
  have hfield : ∀ v, checkAssigned p ((field, v) :: back) = checkAssigned p back := by
    intro v
    rw [checkAssigned, hfree]
    rfl
  have hchecks : checkAssigned p r₁.assign.entries = checkAssigned p r₂.assign.entries := by
    rw [h₁, h₂, checkAssigned_append, checkAssigned_append, hfield, hfield]
  rw [judge, judge, hrejection, hchecks]

/-- The requests have the same tokens. -/
theorem token_eq : r₁.token = r₂.token := by
  funext f
  rw [token, token, h.fields_eq]

/-- The expressions of the requests have the same text. -/
theorem text_eq : r₁.text = r₂.text := by
  have hkeys : r₁.assign.keys = r₂.assign.keys := congrArg Fields.assign h.fields_eq
  simp only [text, itemTexts, h.token_eq, hkeys, h.remove, h.increment, h.append]

/-- Placeholders of names stand for the same fields. -/
theorem nameEntries_eq : r₁.nameEntries = r₂.nameEntries := by
  have hkeys : r₁.assign.entries.map Prod.fst = r₂.assign.entries.map Prod.fst :=
    congrArg Fields.assign h.fields_eq
  simp only [nameEntries, written, List.map_append, hkeys, h.token_eq, h.remove, h.increment, h.append]

/-- Placeholders of values stand for the same values, that of the field apart. -/
theorem valueEntries_eq : ∃ front back,
    r₁.valueEntries = front ++ (":" ++ r₁.token field, v₁.toAttribute) :: back ∧
      r₂.valueEntries = front ++ (":" ++ r₁.token field, v₂.toAttribute) :: back := by
  obtain ⟨front, back, h₁, h₂⟩ := h.assign
  refine ⟨r₁.placed front, r₁.placed back ++ (r₁.zeroEntries ++ (r₁.placed r₁.increment.entries ++
    (r₁.emptyEntries ++ r₁.placed r₁.append.entries))), ?_, ?_⟩
  · simp only [valueEntries, placed, h₁, List.map_append, List.map_cons, List.append_assoc, List.cons_append]
  · simp only [valueEntries, placed, zeroEntries, emptyEntries, h₂, h.token_eq, h.increment, h.append,
      List.map_append, List.map_cons, List.append_assoc, List.cons_append]

/-- A plain field is its own token, so the updates for the requests differ in the value under the placeholder of
its name. -/
theorem revalued_update (hplain : Expression.isPlain field.toList = true) (hdistinct : r₁.fields.all.Nodup)
    (table : String) (key : NameMap Attribute) :
    Update.Revalued (":" ++ field) v₁.toAttribute v₂.toAttribute (r₁.update table key)
      (r₂.update table key) := by
  have htoken : r₁.token field = field := by
    obtain ⟨i, -, hi⟩ := Expression.exists_tokenOf_eq hdistinct h.mem_all
    rw [token, hi, Expression.token, if_pos hplain]
  obtain ⟨front, back, h₁, h₂⟩ := h.valueEntries_eq
  rw [htoken] at h₁ h₂
  have hnodup₁ := Expression.nodup_valueEntries hdistinct
  have hnodup₂ := Expression.nodup_valueEntries (h.fields_eq ▸ hdistinct)
  have hentries₁ := (OrderedMap.entries_ofList hnodup₁).trans h₁
  have hentries₂ := (OrderedMap.entries_ofList hnodup₂).trans h₂
  refine ⟨rfl, rfl, h.text_eq, congrArg OrderedMap.ofList h.nameEntries_eq, rfl, ?_, ?_, ?_, ?_⟩
  · show (OrderedMap.ofList r₁.valueEntries).entries.map Prod.fst =
      (OrderedMap.ofList r₂.valueEntries).entries.map Prod.fst
    rw [hentries₁, hentries₂, List.map_append, List.map_append]
    rfl
  · intro other hother
    show OrderedMap.find other (OrderedMap.ofList r₁.valueEntries).entries =
      OrderedMap.find other (OrderedMap.ofList r₂.valueEntries).entries
    rw [hentries₁, hentries₂, OrderedMap.find_append_cons_of_ne hother, OrderedMap.find_append_cons_of_ne hother]
  · refine (OrderedMap.get?_ofList hnodup₁).2 ?_
    rw [h₁]
    exact List.mem_append_right _ List.mem_cons_self
  · refine (OrderedMap.get?_ofList hnodup₂).2 ?_
    rw [h₂]
    exact List.mem_append_right _ List.mem_cons_self

/-- Where a plain field has no checks, its value shows in the update under the placeholder of its name, and
nowhere else. -/
theorem alike_compile (hplain : Expression.isPlain field.toList = true) {p : Policy Payload}
    (hfree : p.checksFor field = []) (table : String) :
    Outcome.Alike (Update.Revalued (":" ++ field) v₁.toAttribute v₂.toAttribute) (r₁.compile table p)
      (r₂.compile table p) := by
  rw [compile_eq, compile_eq, ← h.judge_eq hfree, ← h.fields_eq, ← h.key]
  cases hjudge : r₁.judge p with
  | error e => exact .error e
  | ok _ =>
    cases r₁.fields.isEmpty with
    | true => exact .error _
    | false =>
      cases r₁.key.toAttributes with
      | error e => exact .error (told e)
      | ok key => exact .accepted (h.revalued_update hplain (conforms_of_judge hjudge).distinct table key)

end Request.Revalued

/-! ## Two clocks -/

section Clocks

variable {p : Policy Payload} (s₁ s₂ : String)

/-- Where a policy keeps the time of the update, a timestamp is the value of that field and of no other. -/
theorem Request.revalued_withAutoFields (htimed : p.autoTimestamp = true) (r : Request) :
    Revalued Policy.timestampField (.text s₁) (.text s₂) (r.withAutoFields p s₁) (r.withAutoFields p s₂) where
  key := by rw [key_withAutoFields, key_withAutoFields]
  assign := by
    refine ⟨(r.withoutAutoFields p).assign.entries, [], ?_, ?_⟩
    · rw [assign_withAutoFields, Policy.timeEntries, if_pos htimed]
    · rw [assign_withAutoFields, Policy.timeEntries, if_pos htimed]
  remove := by rw [remove_withAutoFields, remove_withAutoFields]
  increment := OrderedMap.ext (by rw [increment_withAutoFields, increment_withAutoFields])
  append := by rw [append_withAutoFields, append_withAutoFields]

/-- Where a policy does not keep it, a timestamp is not used. -/
theorem Request.withAutoFields_of_untimed (htimed : p.autoTimestamp = false) (r : Request) :
    r.withAutoFields p s₁ = r.withAutoFields p s₂ := by
  rw [withAutoFields, withAutoFields, htimed]
  rfl

/-- So a request comes to the same under two timestamps, the time in its update apart. -/
theorem outcomeOf_alike (htimed : p.autoTimestamp = true) (hfree : p.checksFor Policy.timestampField = [])
    (table : String) (raw : Payload) :
    Outcome.Alike (Update.Revalued ":lastUpdated" (.text s₁) (.text s₂)) (outcomeOf table p s₁ raw)
      (outcomeOf table p s₂ raw) := by
  cases hread : Request.ofPayload raw with
  | error e =>
    rw [outcomeOf_of_error hread, outcomeOf_of_error hread]
    exact .error (told e)
  | ok r =>
    rw [outcomeOf_of_ofPayload hread, outcomeOf_of_ofPayload hread]
    -- widening a policy keeps its switches and its checks
    have hrevalued := Request.revalued_withAutoFields (p := p.effective) s₁ s₂ htimed r
    exact hrevalued.alike_compile (by decide) (p := p.effective) hfree table

/-- Without the time of the update, a request comes to the same. -/
theorem outcomeOf_of_untimed (htimed : p.autoTimestamp = false) (table : String) (raw : Payload) :
    outcomeOf table p s₁ raw = outcomeOf table p s₂ raw := by
  cases hread : Request.ofPayload raw with
  | error e => rw [outcomeOf_of_error hread, outcomeOf_of_error hread]
  | ok r =>
    rw [outcomeOf_of_ofPayload hread, outcomeOf_of_ofPayload hread,
      Request.withAutoFields_of_untimed s₁ s₂ (p := p.effective) htimed r]

end Clocks

/-- Two calls on the same requests under two clocks, with no checks on the time of the update. They end with the
same failure, or both return. Then they leave out the same requests for the same reasons and return the same
updates, but for the time: where it is kept, each update of a call has the time of the clock of that call. -/
theorem compileBatch_clocks {policy : Payload} {p : Policy Payload} {clock₁ clock₂ : Moment} {s₁ s₂ : String}
    (hpolicy : Policy.ofPayload policy = .ok p) (hfree : p.checksFor Policy.timestampField = [])
    (hclock₁ : clock₁.timestamp = .ok s₁) (hclock₂ : clock₂.timestamp = .ok s₂) (table requests : Payload)
    (c₁ c₂ : Counters) :
    (∃ failure, (compileBatch table requests policy clock₁ c₁).result = .error failure ∧
        (compileBatch table requests policy clock₂ c₂).result = .error failure) ∨
      ∃ res₁ res₂, (compileBatch table requests policy clock₁ c₁).result = .ok res₁ ∧
        (compileBatch table requests policy clock₂ c₂).result = .ok res₂ ∧ res₁.failures = res₂.failures ∧
        (p.autoTimestamp = false → res₁.operations = res₂.operations) ∧
        (p.autoTimestamp = true → List.Forall₂ (Update.Revalued ":lastUpdated" (.text s₁) (.text s₂))
          res₁.operations res₂.operations) := by
  cases htable : tableName table with
  | error e =>
    refine .inl ⟨.ofPolicy (told e), ?_, ?_⟩
    · rw [compileBatch, Batch.read, hpolicy, htable]
      rfl
    · rw [compileBatch, Batch.read, hpolicy, htable]
      rfl
  | ok t =>
    cases hitems : requests.elements? with
    | none =>
      refine .inl ⟨.fault (.notIterable requests.type), ?_, ?_⟩
      · rw [compileBatch, Batch.read, hpolicy, htable, hclock₁, hitems]
        rfl
      · rw [compileBatch, Batch.read, hpolicy, htable, hclock₂, hitems]
        rfl
    | some items =>
      rcases legible_or_exists_illegible items with hlegible | ⟨raw, hmem, hraw⟩
      swap
      · rw [compileBatch_of_illegible hpolicy htable hclock₁ hitems hmem hraw,
          compileBatch_of_illegible hpolicy htable hclock₂ hitems hmem hraw]
        exact .inl ⟨_, rfl, rfl⟩
      rw [compileBatch_result hpolicy htable hclock₁ hitems hlegible,
        compileBatch_result hpolicy htable hclock₂ hitems hlegible]
      cases htimed : p.autoTimestamp with
      | false =>
        rw [List.map_congr_left fun raw _ => outcomeOf_of_untimed s₁ s₂ htimed t raw]
        cases hresult : Outcome.result p.failOnError (items.map (outcomeOf t p s₂)) with
        | error failure => exact .inl ⟨failure, rfl, rfl⟩
        | ok res => exact .inr ⟨res, res, rfl, rfl, rfl, fun _ => rfl, by rintro ⟨⟩⟩
      | true =>
        have halike : List.Forall₂ (Outcome.Alike (Update.Revalued ":lastUpdated" (.text s₁) (.text s₂)))
            (items.map (outcomeOf t p s₁)) (items.map (outcomeOf t p s₂)) :=
          List.forall₂_map_left_iff.2 (List.forall₂_map_right_iff.2
            (List.forall₂_same.2 fun raw _ => outcomeOf_alike s₁ s₂ htimed hfree t raw))
        rcases Outcome.result_of_alike halike p.failOnError with hfailure | hreturned
        · exact .inl hfailure
        · obtain ⟨res₁, res₂, h₁, h₂, hfailures, hoperations⟩ := hreturned
          exact .inr ⟨res₁, res₂, h₁, h₂, hfailures, by rintro ⟨⟩, fun _ => hoperations⟩

/-- The policy of a help desk that keeps the time of an update as well as their number. -/
def timedPolicy : Policy Payload :=
  { deskPolicy false with autoTimestamp := true }

/-- The evening of the same day, by a clock that is an hour ahead. -/
def eveningClock : Moment := ⟨⟨2024, 2, 29⟩, 19, 30, 0, 0, 3600⟩

/-- The help desk compiles the same requests at noon and in the evening: one of them comes to an update, which
differs in its time, and the other two are left out. -/
theorem compileBatch_clocks_desk :
    ∃ res₁ res₂,
      (compileBatch (.text "cases") (.list deskRequests) (.policy timedPolicy) deskClock .zero).result = .ok res₁ ∧
      (compileBatch (.text "cases") (.list deskRequests) (.policy timedPolicy) eveningClock .zero).result =
        .ok res₂ ∧
      res₁.operations.length = 1 ∧ res₁.failures.length = 2 ∧ res₁.failures = res₂.failures ∧
      List.Forall₂ (Update.Revalued ":lastUpdated" (.text "2024-02-29T12:00:00.000Z")
        (.text "2024-02-29T18:30:00.000Z")) res₁.operations res₂.operations := by
  have hpolicy : Policy.ofPayload (.policy timedPolicy) = .ok timedPolicy := rfl
  have hnoon : deskClock.timestamp = .ok "2024-02-29T12:00:00.000Z" := rfl
  have hevening : eveningClock.timestamp = .ok "2024-02-29T18:30:00.000Z" := rfl
  have htable : tableName (.text "cases") = .ok "cases" := rfl
  have hitems : (Payload.list deskRequests).elements? = some deskRequests := rfl
  have hlegible : ∀ raw ∈ deskRequests, Request.isLegible raw = true := by decide +kernel
  have hresult := compileBatch_result hpolicy htable hnoon hitems hlegible .zero
  have hreturns : (Outcome.result timedPolicy.failOnError (deskRequests.map
      (outcomeOf "cases" timedPolicy "2024-02-29T12:00:00.000Z"))).isOk = true := by decide +kernel
  rcases compileBatch_clocks hpolicy rfl hnoon hevening (.text "cases") (.list deskRequests) .zero .zero with
    ⟨failure, hfailure, -⟩ | ⟨res₁, res₂, h₁, h₂, hfailures, -, htimes⟩
  · rw [← hresult, hfailure] at hreturns
    cases hreturns
  · have hres := h₁
    rw [hresult, Outcome.result_eq_ok_iff] at hres
    obtain ⟨-, rfl⟩ := hres
    exact ⟨_, res₂, h₁, h₂, by decide +kernel, by decide +kernel, hfailures, htimes rfl⟩

end Amend
