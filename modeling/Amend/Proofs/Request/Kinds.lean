import Amend.Proofs.Stages
import Amend.Request.Payload

/-!
# Kinds of rejections of a request

A request is read in stages, and each has kinds of rejections of its own: a key is malformed, a bucket is
malformed or holds a value that the store cannot, and the names of the buckets are part of the form of the
request.
-/

namespace Amend

/-! ## Values -/

/-- A number that the store cannot hold is an unsupported value. -/
theorem Value.failsOnly_ofNumber (n : Number) : FailsOnly [.unsupportedValue] (ofNumber n) := by
  rw [ofNumber]
  split
  · exact fails_ok _
  · split <;> exact fails_error (List.mem_singleton_self _)

mutual

/-- A payload that is no value is unsupported as one. -/
theorem Value.failsOnly_ofPayload : ∀ p : Payload, FailsOnly [.unsupportedValue] (Value.ofPayload p)
  | .null | .boolean _ | .text _ | .value _ => fails_ok _
  | .number n => Value.failsOnly_ofNumber n
  | .list items => by
    rw [Value.ofPayload]
    exact (Value.failsOnly_ofItems items).bind fun _ => fails_ok _
  | .tuple items => by
    rw [Value.ofPayload]
    exact (Value.failsOnly_ofItems items).bind fun _ => fails_ok _
  | .mapping entries => by
    rw [Value.ofPayload]
    exact (Value.failsOnly_ofEntries entries).bind fun _ => fails_ok _
  | .bytes _ | .set _ | .series .. | .pattern _ | .check _ | .key _ | .rule _ | .request _ | .policy _ | .object _ =>
    fails_error (List.mem_singleton_self _)

/-- Items that are no values are unsupported as them. -/
theorem Value.failsOnly_ofItems : ∀ items : List Payload, FailsOnly [.unsupportedValue] (Value.ofItems items)
  | [] => fails_ok _
  | p :: rest => by
    rw [Value.ofItems]
    exact (Value.failsOnly_ofPayload p).bind fun _ => (Value.failsOnly_ofItems rest).bind fun _ => fails_ok _

/-- Entries that are no values, or have no texts as names, are unsupported as them. -/
theorem Value.failsOnly_ofEntries :
    ∀ entries : List (Payload × Payload), FailsOnly [.unsupportedValue] (Value.ofEntries entries)
  | [] => fails_ok _
  | (name, p) :: rest => by
    cases name with
    | text s =>
      rw [Value.ofEntries]
      exact (Value.failsOnly_ofPayload p).bind fun _ =>
        (Value.failsOnly_ofEntries rest).bind fun _ => fails_ok _
    | _ => exact fails_error (List.mem_singleton_self _)

end

/-! ## Keys and buckets -/

/-- A payload that is no key is a malformed one. -/
theorem Key.failsOnly_ofPayload (p : Payload) : FailsOnly [.malformedKey] (Key.ofPayload p) := by
  cases p with
  | mapping entries =>
    rw [Key.ofPayload, Key.ofParts]
    split
    · exact fails_ok _
    · exact fails_error (List.mem_singleton_self _)
  | _ => exact fails_error (List.mem_singleton_self _)

namespace Request

/-- What is no name of a field makes a request malformed. -/
theorem failsOnly_fieldName (a : Action) (p : Payload) : FailsOnly [.malformedRequest] (fieldName a p) := by
  cases p with
  | text s =>
    rw [fieldName]
    split
    · exact fails_error (List.mem_singleton_self _)
    · exact fails_ok _
  | _ => exact fails_error (List.mem_singleton_self _)

/-- So do several of them. -/
theorem failsOnly_fieldNames (a : Action) (items : List Payload) :
    FailsOnly [.malformedRequest] (fieldNames a items) := by
  induction items with
  | nil => exact fails_ok _
  | cons p rest ih => exact (failsOnly_fieldName a p).bind fun _ => ih.bind fun _ => fails_ok _

/-- A bucket of removals can only be malformed. -/
theorem failsOnly_removal (p : Payload) : FailsOnly [.malformedRequest] (removal p) := by
  cases p with
  | null => exact fails_ok _
  | list items => exact failsOnly_fieldNames _ items
  | tuple items => exact failsOnly_fieldNames _ items
  | series _ _ items => exact failsOnly_fieldNames _ items
  | _ => exact fails_error (List.mem_singleton_self _)

/-- An entry of a bucket can be malformed, or its value unsupported. -/
theorem Bucket.failsOnly_read (a : Action) (b : Bucket) (entries : List (Payload × Payload)) :
    FailsOnly [.malformedRequest, .unsupportedValue] (Bucket.read a b entries) := by
  induction entries generalizing b with
  | nil => exact fails_ok _
  | cons e rest ih =>
    refine Fails.bind ((failsOnly_fieldName a e.1).mono (by simp)) fun name => ?_
    exact ((Value.failsOnly_ofPayload e.2).mono (by simp)).bind fun v => ih _

/-- A bucket can be malformed, or a value in it unsupported. -/
theorem failsOnly_bucket (a : Action) (p : Payload) :
    FailsOnly [.malformedRequest, .unsupportedValue] (bucket a p) := by
  cases p with
  | null => exact fails_ok _
  | mapping entries => exact Bucket.failsOnly_read a _ entries
  | _ => exact fails_error (by simp [Rejection.kind])

/-- So can four of them. -/
theorem failsOnly_ofBuckets (key : Key) (assign remove increment append : Payload) :
    FailsOnly [.malformedRequest, .unsupportedValue] (ofBuckets key assign remove increment append) := by
  refine Fails.bind ((failsOnly_removal remove).mono (by simp)) fun _ => ?_
  refine Fails.bind (failsOnly_bucket .assign assign) fun _ => ?_
  refine Fails.bind (failsOnly_bucket .increment increment) fun _ => ?_
  exact Fails.bind (failsOnly_bucket .append append) fun _ => fails_ok _

/-- The names of the buckets can make a request malformed. -/
theorem failsOnly_bucketsOf (entries : List (Payload × Payload)) (found : OrderedMap Action Payload) :
    FailsOnly [.malformedRequest] (bucketsOf entries found) := by
  induction entries generalizing found with
  | nil => exact fails_ok _
  | cons e rest ih =>
    rw [bucketsOf]
    split
    · exact ih found
    · split
      · exact fails_error (List.mem_singleton_self _)
      · split
        · exact fails_error (List.mem_singleton_self _)
        · split <;> exact ih _

/-- A request with the buckets that have been found. -/
def ofFound (key : Key) (found : OrderedMap Action Payload) : Except Rejection Request :=
  ofBuckets key ((found.get? .assign).getD .null) ((found.get? .remove).getD .null)
    ((found.get? .increment).getD .null) ((found.get? .append).getD .null)

/-- A mapping is read in three stages. -/
theorem ofPayload_mapping (entries : List (Payload × Payload)) :
    ofPayload (.mapping entries) =
      Key.ofPayload ((Payload.entry? entries "key").getD .null) >>= fun key =>
        bucketsOf entries .empty >>= ofFound key :=
  rfl

/-- The buckets that have been found can be malformed, or hold an unsupported value. -/
theorem failsOnly_ofFound (key : Key) (found : OrderedMap Action Payload) :
    FailsOnly [.malformedRequest, .unsupportedValue] (ofFound key found) :=
  failsOnly_ofBuckets key _ _ _ _

/-- A mapping is refused for its key exactly if it has none. -/
theorem kind_eq_malformedKey_iff {entries : List (Payload × Payload)} {e : Rejection}
    (h : ofPayload (.mapping entries) = .error e) :
    e.kind = .malformedKey ↔
      ∃ f, Key.ofPayload ((Payload.entry? entries "key").getD .null) = .error f := by
  rw [ofPayload_mapping] at h
  cases hkey : Key.ofPayload ((Payload.entry? entries "key").getD .null) with
  | error f =>
    rw [hkey] at h
    cases h
    exact iff_of_true (List.mem_singleton.1 (Key.failsOnly_ofPayload _ _ hkey)) ⟨_, rfl⟩
  | ok key =>
    rw [hkey] at h
    have hbuckets : FailsOnly [.malformedRequest, .unsupportedValue] (bucketsOf entries .empty >>= ofFound key) :=
      ((failsOnly_bucketsOf entries .empty).mono (by simp)).bind (failsOnly_ofFound key)
    refine iff_of_false (fun hkind => ?_) (fun ⟨f, hf⟩ => nomatch hf)
    have hmem : e.kind ∈ [RejectionKind.malformedRequest, .unsupportedValue] := hbuckets e h
    rw [hkind] at hmem
    exact absurd hmem (by decide)

/-- What is no request has a malformed key, is malformed, or has an unsupported value. -/
theorem failsOnly_ofPayload (raw : Payload) :
    FailsOnly [.malformedKey, .malformedRequest, .unsupportedValue] (ofPayload raw) := by
  cases raw with
  | request r => exact fails_ok _
  | mapping entries =>
    rw [ofPayload_mapping]
    refine ((Key.failsOnly_ofPayload _).mono (by simp)).bind fun key => ?_
    refine ((failsOnly_bucketsOf entries .empty).mono (by simp)).bind fun found => ?_
    exact (failsOnly_ofFound key found).mono (List.subset_cons_self _ _)
  | _ => exact fails_error (List.mem_cons_self ..)

end Request

end Amend
