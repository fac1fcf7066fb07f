import Amend.Proofs.Number
import Amend.Proofs.Stages
import Amend.Value.Payload

/-!
# What can be shown

An integer that can be written is below a power of ten (`Number.isShowable_int_iff`), and the store holds nothing
near it. So a value can be shown as plain data (`Value.isShowable_toPayload`), and whatever is wrong with a payload
that can be shown can be told (`Value.tells_ofPayload`).
-/

namespace Amend

/-! ## Numbers -/

/-- An integer can be written if it is below the power of ten that has one digit too many. -/
theorem Number.isShowable_int_iff {n : Int} :
    (Number.int n).isShowable = true ↔ n.natAbs < 10 ^ longestInteger := by
  rw [isShowable, decide_eq_true_eq]
  exact Decimal.digitCount_le_iff (by decide)

/-- A power of ten. -/
def powerOfTen (e : Nat) : Int := 10 ^ e

/-- A power of ten with too many digits cannot be written. -/
theorem Number.isShowable_powerOfTen {e : Nat} (h : longestInteger ≤ e) :
    (Number.int (powerOfTen e)).isShowable = false := by
  have hlarge : ¬ (powerOfTen e).natAbs < 10 ^ longestInteger := by
    rw [powerOfTen, Int.natAbs_pow, Nat.not_lt]
    exact Nat.pow_le_pow_right (by decide) h
  exact Bool.eq_false_iff.2 fun hshown => hlarge (isShowable_int_iff.1 hshown)

/-- A number is shown as it is written. -/
theorem Payload.isShowable_number (n : Number) : (Payload.number n).isShowable = n.isShowable := rfl

/-- What the store can hold can be written. -/
theorem Number.isShowable_of_storable {n : Number} (h : n.storable = true) : n.isShowable = true := by
  cases n with
  | int n =>
    have hroom := (Decimal.Context.holds_finite_iff (by decide)).1 h
    rw [isShowable, decide_eq_true_eq]
    rw [Decimal.Context.HasRoom] at hroom
    split at hroom
    · rename_i hzero
      rw [hzero]
      decide
    · exact Nat.le_trans hroom.1 (by decide)
  | double x => rfl
  | decimal d => rfl

/-! ## Parts -/

namespace Payload

/-- Where all of some payloads can be shown, each can. -/
theorem isShowable_of_mem {items : List Payload} {p : Payload} (h : areShowable items = true) (hp : p ∈ items) :
    p.isShowable = true :=
  List.all_eq_true.1 (areShowable_eq_all items ▸ h) p hp

/-- Where all entries can be shown, so can what is under a text. -/
theorem isShowable_of_entry? {entries : List (Payload × Payload)} {name : String} {p : Payload}
    (h : entriesShowable entries = true) (hp : entry? entries name = some p) : p.isShowable = true := by
  obtain ⟨e, he, rfl⟩ := Option.map_eq_some_iff.1 hp
  rw [entriesShowable_eq_all, List.all_eq_true] at h
  exact (Bool.and_eq_true_iff.1 (h e (List.mem_of_find?_eq_some he))).2

end Payload

/-! ## Values -/

namespace Value

mutual

/-- A value can be shown as plain data. -/
theorem isShowable_toPayload : ∀ v : Value, v.toPayload.isShowable = true
  | .null | .boolean _ | .text _ => rfl
  | .number n => Number.isShowable_of_storable n.storable
  | .sequence items => areShowable_itemPayloads items
  | .mapping entries => entriesShowable_entryPayloads entries

/-- So can several values. -/
theorem areShowable_itemPayloads : ∀ items : List Value, Payload.areShowable (itemPayloads items) = true
  | [] => rfl
  | v :: rest => Bool.and_eq_true_iff.2 ⟨isShowable_toPayload v, areShowable_itemPayloads rest⟩

/-- So can values under names. -/
theorem entriesShowable_entryPayloads :
    ∀ entries : List (String × Value), Payload.entriesShowable (entryPayloads entries) = true
  | [] => rfl
  | (_, v) :: rest => Bool.and_eq_true_iff.2
    ⟨Bool.and_eq_true_iff.2 ⟨rfl, isShowable_toPayload v⟩, entriesShowable_entryPayloads rest⟩

end

mutual

/-- A payload that the store can hold can be shown. -/
theorem isShowable_of_ofPayload : ∀ {p : Payload} {v : Value}, ofPayload p = .ok v → p.isShowable = true
  | .null, _, _ | .boolean _, _, _ | .text _, _, _ | .value _, _, _ => rfl
  | .number n, _, h => by
    rw [ofPayload, ofNumber] at h
    split at h
    · rename_i hstorable
      exact Number.isShowable_of_storable hstorable
    · split at h <;> cases h
  | .list items, _, h | .tuple items, _, h => by
    rw [ofPayload] at h
    obtain ⟨vs, hitems, -⟩ := bind_eq_ok_iff.1 h
    exact areShowable_of_ofItems hitems
  | .mapping entries, _, h => by
    rw [ofPayload] at h
    obtain ⟨es, hentries, -⟩ := bind_eq_ok_iff.1 h
    exact entriesShowable_of_ofEntries hentries
  | .bytes _, _, h | .set _, _, h | .series .., _, h | .pattern _, _, h | .check _, _, h | .key _, _, h
  | .rule _, _, h | .request _, _, h | .policy _, _, h | .object _, _, h => nomatch h

/-- So can several of them. -/
theorem areShowable_of_ofItems : ∀ {items : List Payload} {vs : List Value}, ofItems items = .ok vs →
    Payload.areShowable items = true
  | [], _, _ => rfl
  | p :: rest, _, h => by
    rw [ofItems] at h
    obtain ⟨v, hp, h⟩ := bind_eq_ok_iff.1 h
    obtain ⟨vs, hrest, -⟩ := bind_eq_ok_iff.1 h
    exact Bool.and_eq_true_iff.2 ⟨isShowable_of_ofPayload hp, areShowable_of_ofItems hrest⟩

/-- So can entries with texts as names. -/
theorem entriesShowable_of_ofEntries : ∀ {entries : List (Payload × Payload)} {es : List (String × Value)},
    ofEntries entries = .ok es → Payload.entriesShowable entries = true
  | [], _, _ => rfl
  | (name, p) :: rest, _, h => by
    cases name with
    | text s =>
      rw [ofEntries] at h
      obtain ⟨v, hp, h⟩ := bind_eq_ok_iff.1 h
      obtain ⟨es, hrest, -⟩ := bind_eq_ok_iff.1 h
      exact Bool.and_eq_true_iff.2
        ⟨Bool.and_eq_true_iff.2 ⟨rfl, isShowable_of_ofPayload hp⟩, entriesShowable_of_ofEntries hrest⟩
    | _ => cases h

end

/-! ## What is wrong with a payload -/

/-- That the store cannot hold a number can be told if the number can be written. -/
theorem tells_ofNumber {n : Number} (h : n.isShowable = true) : Tells (ofNumber n) := by
  rw [ofNumber]
  split
  · exact fails_ok _
  · split <;> exact fails_error h

mutual

/-- What is wrong with a payload that can be shown can be told. -/
theorem tells_ofPayload : ∀ p : Payload, p.isShowable = true → Tells (ofPayload p)
  | .null, _ | .boolean _, _ | .text _, _ | .value _, _ => fails_ok _
  | .number _, h => tells_ofNumber h
  | .list items, h => by
    rw [ofPayload]
    exact (tells_ofItems items h).bind fun _ => fails_ok _
  | .tuple items, h => by
    rw [ofPayload]
    exact (tells_ofItems items h).bind fun _ => fails_ok _
  | .mapping entries, h => by
    rw [ofPayload]
    exact (tells_ofEntries entries h).bind fun _ => fails_ok _
  | .bytes _, _ | .set _, _ | .series .., _ | .pattern _, _ | .check _, _ | .key _, _ | .rule _, _
  | .request _, _ | .policy _, _ | .object _, _ => fails_error rfl

/-- So can what is wrong with several of them. -/
theorem tells_ofItems : ∀ items : List Payload, Payload.areShowable items = true → Tells (ofItems items)
  | [], _ => fails_ok _
  | p :: rest, h => by
    rw [Payload.areShowable, Bool.and_eq_true_iff] at h
    rw [ofItems]
    exact (tells_ofPayload p h.1).bind fun _ => (tells_ofItems rest h.2).bind fun _ => fails_ok _

/-- So can what is wrong with entries. -/
theorem tells_ofEntries : ∀ entries : List (Payload × Payload), Payload.entriesShowable entries = true →
    Tells (ofEntries entries)
  | [], _ => fails_ok _
  | (name, p) :: rest, h => by
    rw [Payload.entriesShowable, Bool.and_eq_true_iff, Bool.and_eq_true_iff] at h
    cases name with
    | text s =>
      rw [ofEntries]
      exact (tells_ofPayload p h.1.2).bind fun _ => (tells_ofEntries rest h.2).bind fun _ => fails_ok _
    | _ => exact fails_error h.1.1

end

end Value

end Amend
