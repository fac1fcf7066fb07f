import Amend.Proofs.Batch.Outcome
import Amend.Proofs.Bookkeeping.Injection
import Amend.Proofs.Request.Grammar

/-!
# Requests that can be shown

Whether a batch gets to its requests depends on whether they are legible, and whether a request is rejected or ends
the call, on whether the reason can be told. Both are so for everything that can be shown together with the names of
its removals (`Request.IsShown`): a reason quotes nothing but a part of the request (`isTold_of_isShown`).
-/

namespace Amend

/-- A payload can be shown, and so can the names of the removals that it has as a request. -/
structure Request.IsShown (raw : Payload) : Prop where
  whole : raw.isShowable = true
  removals : ∀ entries, raw = .mapping entries → removalsShowable (bucketUnder entries .remove) = true

/-! ## Keys -/

/-- A part of a key is shown as what it is as a payload. -/
theorem KeyPart.isShowable_toPayload (k : KeyPart) : k.toPayload.isShowable = k.isShowable := by
  cases k <;> rfl

/-- Why a payload that can be shown cannot be encoded can be told. -/
theorem Payload.tells_toAttribute {p : Payload} (h : p.isShowable = true) : Tells p.toAttribute :=
  (Value.tells_ofPayload p h).bind fun _ => fails_ok _

/-- Why a key that can be shown cannot be encoded can be told. -/
theorem Key.tells_toAttributes {k : Key} (h : k.isShowable = true) : Tells k.toAttributes := by
  obtain ⟨hpartition, hsort⟩ := Bool.and_eq_true_iff.1 h
  rw [← KeyPart.isShowable_toPayload] at hpartition hsort
  exact (Payload.tells_toAttribute hpartition).bind fun _ =>
    (Payload.tells_toAttribute hsort).bind fun _ => fails_ok _

/-- A key that is spelled out by what can be shown can be shown. -/
theorem Key.isShowable_of_spelledBy {k : Key} {p : Payload} (hk : k.SpelledBy p) (h : p.isShowable = true) :
    k.isShowable = true := by
  obtain ⟨parts, rfl, hpartition, hsort⟩ := hk
  rw [isShowable, ← KeyPart.isShowable_toPayload, ← KeyPart.isShowable_toPayload, Bool.and_eq_true_iff]
  exact ⟨Payload.isShowable_of_entry? h hpartition, Payload.isShowable_of_entry? h hsort⟩

namespace Request

variable {raw : Payload}

/-- What is wrong with a request that can be shown can be told. -/
theorem tells_ofPayload (h : IsShown raw) : Tells (ofPayload raw) := by
  cases raw with
  | request r => exact fails_ok r
  | _ => exact tells_parse h.whole h.removals

/-- A request that can be shown is legible. -/
theorem isLegible_of_isShown (h : IsShown raw) : isLegible raw = true := by
  rw [isLegible]
  cases hread : ofPayload raw with
  | ok r => rfl
  | error e => exact tells_ofPayload h e hread

/-- Its key can be shown. -/
theorem isShowable_key_of_ofPayload (h : IsShown raw) {r : Request} (hr : ofPayload raw = .ok r) :
    r.key.isShowable = true := by
  cases raw with
  | request r' =>
    obtain rfl := Except.ok.inj hr
    exact h.whole
  | mapping entries =>
    obtain ⟨key, hkey, hrest⟩ := bind_eq_ok_iff.1 (hr : parse (.mapping entries) = .ok r)
    obtain ⟨found, -, hbuckets⟩ := bind_eq_ok_iff.1 hrest
    obtain ⟨hr, -⟩ := ofBuckets_eq_ok_iff.1 hbuckets
    rw [hr]
    exact Key.isShowable_of_spelledBy (Key.ofPayload_eq_ok_iff.1 hkey) (Payload.isShowable_entryOrNull h.whole "key")
  | _ => cases hr

end Request

/-- If there is a reason to reject a request that can be shown, its assigned values apart, it can be told. -/
theorem isTold_of_isShown {p : Policy Payload} {stamp : String} {raw : Payload} (h : Request.IsShown raw) :
    isTold p stamp raw = true := by
  rw [isTold]
  cases hread : Request.ofPayload raw with
  | error e => exact Request.tells_ofPayload h e hread
  | ok r =>
    have hkey := Key.tells_toAttributes (Request.isShowable_key_of_ofPayload h hread)
    dsimp only
    rw [Request.tellsKey, Request.key_withAutoFields]
    split
    · rename_i reason _ hreason
      rw [Bool.or_eq_true_iff]
      exact .inr (hkey reason hreason)
    · rfl

end Amend
