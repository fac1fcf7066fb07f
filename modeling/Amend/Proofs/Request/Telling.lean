import Amend.Proofs.Payload.Shown
import Amend.Request.Payload

/-!
# Rejections that can be told

What a request is rejected for is a part of it, and the rejection quotes this part. So whatever is wrong with a
payload that can be shown can be told, in each of the stages in which a request is read. Only the names of removals
are shown by themselves: how a sequence other than a list or a tuple is shown says nothing about its items.
-/

namespace Amend

/-! ## Keys -/

/-- Where all entries can be shown, so can what is under a text, or that nothing is. -/
theorem Payload.isShowable_entryOrNull {entries : List (Payload × Payload)} (h : entriesShowable entries = true)
    (name : String) : ((Payload.entry? entries name).getD .null).isShowable = true := by
  cases hp : entry? entries name with
  | none => rfl
  | some p => exact isShowable_of_entry? h hp

/-- Why something is no key can be told. -/
theorem Key.tells_ofPayload {p : Payload} (h : p.isShowable = true) : Tells (Key.ofPayload p) := by
  cases p with
  | mapping entries =>
    rw [Key.ofPayload, Key.ofParts]
    split
    · exact fails_ok _
    · exact fails_error (Bool.and_eq_true_iff.2
        ⟨Payload.isShowable_entryOrNull h "pk", Payload.isShowable_entryOrNull h "sk"⟩)
  | _ => exact fails_error h

namespace Request

/-! ## Buckets -/

/-- What is no name of a field can be told. -/
theorem tells_fieldName (a : Action) {p : Payload} (h : p.isShowable = true) : Tells (fieldName a p) := by
  cases p with
  | text s =>
    rw [fieldName]
    split
    · exact fails_error rfl
    · exact fails_ok _
  | _ => exact fails_error h

/-- So can the first of several payloads that is none. -/
theorem tells_fieldNames (a : Action) {items : List Payload} (h : ∀ p ∈ items, p.isShowable = true) :
    Tells (fieldNames a items) := by
  induction items with
  | nil => exact fails_ok _
  | cons p rest ih =>
    rw [List.forall_mem_cons] at h
    exact (tells_fieldName a h.1).bind fun _ => (ih h.2).bind fun _ => fails_ok _

/-- The names of removals can be shown. -/
def removalsShowable : Payload → Bool
  | .series _ _ items => Payload.areShowable items
  | p => p.isShowable

/-- What is wrong with removals can be told. -/
theorem tells_removal {p : Payload} (h : removalsShowable p = true) : Tells (removal p) := by
  cases p with
  | null => exact fails_ok _
  | list items | tuple items | series _ _ items =>
    exact tells_fieldNames _ fun _ => Payload.isShowable_of_mem h
  | _ => exact fails_error rfl

/-- What is wrong with the entries of a bucket can be told. -/
theorem Bucket.tells_read (a : Action) (b : Bucket) {entries : List (Payload × Payload)}
    (h : Payload.entriesShowable entries = true) : Tells (Bucket.read a b entries) := by
  induction entries generalizing b with
  | nil => exact fails_ok _
  | cons e rest ih =>
    obtain ⟨hentry, hrest⟩ := Bool.and_eq_true_iff.1 h
    obtain ⟨hname, hvalue⟩ := Bool.and_eq_true_iff.1 hentry
    exact (tells_fieldName a hname).bind fun _ => (Value.tells_ofPayload e.2 hvalue).bind fun _ => ih _ hrest

/-- What is wrong with any other bucket can be told. -/
theorem tells_bucket (a : Action) {p : Payload} (h : p.isShowable = true) : Tells (bucket a p) := by
  cases p with
  | null => exact fails_ok _
  | mapping entries => exact Bucket.tells_read a _ h
  | _ => exact fails_error rfl

/-- What is wrong with one of four buckets can be told. -/
theorem tells_ofBuckets (key : Key) {assign remove increment append : Payload} (hassign : assign.isShowable = true)
    (hremove : removalsShowable remove = true) (hincrement : increment.isShowable = true)
    (happend : append.isShowable = true) : Tells (ofBuckets key assign remove increment append) := by
  refine (tells_removal hremove).bind fun _ => (tells_bucket .assign hassign).bind fun _ => ?_
  exact (tells_bucket .increment hincrement).bind fun _ => (tells_bucket .append happend).bind fun _ => fails_ok _

/-- What is wrong with the names of buckets can be told. -/
theorem tells_bucketsOf {entries : List (Payload × Payload)} (h : Payload.entriesShowable entries = true)
    (found : OrderedMap Action Payload) : Tells (bucketsOf entries found) := by
  induction entries generalizing found with
  | nil => exact fails_ok _
  | cons e rest ih =>
    obtain ⟨hentry, hrest⟩ := Bool.and_eq_true_iff.1 h
    obtain ⟨hname, -⟩ := Bool.and_eq_true_iff.1 hentry
    rw [bucketsOf]
    split
    · exact ih hrest found
    · split
      · exact fails_error hname
      · split
        · exact fails_error rfl
        · split <;> exact ih hrest _

end Request

end Amend
