import Amend.Proofs.Check
import Amend.Proofs.Value.Capacity
import Amend.Proofs.Value.Unwrapping

/-!
# The plain form of a payload

What a payload is classified as is unwrapped as the payload again, but for two things. A value has no tuples, only
sequences, so every tuple comes back as a list (`Payload.listed`). And a value that has been made before is no data,
so it comes back as the data that it holds (`Payload.unwrapped`). All else stays where and as it is, the kind of every
number included (`Value.of_unwraps`); and classifying what has come back leads to the same value.

Both changes go through a payload from its leaves up (`Payload.rebuild`), so that they are said for one node only.
-/

namespace Amend

namespace Payload

/-! ## Changes of nodes -/

mutual

/-- A payload with all that is in it changed, from the leaves up. The keys of mappings stay as they are. -/
def rebuild (change : Payload → Payload) : Payload → Payload
  | .list items => change (.list (rebuildItems change items))
  | .tuple items => change (.tuple (rebuildItems change items))
  | .mapping entries => change (.mapping (rebuildEntries change entries))
  | p => change p

/-- Items with all that is in them changed. -/
def rebuildItems (change : Payload → Payload) : List Payload → List Payload
  | [] => []
  | p :: rest => rebuild change p :: rebuildItems change rest

/-- Entries with all that is in them changed, under the same keys. -/
def rebuildEntries (change : Payload → Payload) : List (Payload × Payload) → List (Payload × Payload)
  | [] => []
  | (name, p) :: rest => (name, rebuild change p) :: rebuildEntries change rest

end

/-- A tuple as the list of its items. -/
def tupleAsList : Payload → Payload
  | .tuple items => .list items
  | p => p

/-- A value that has been made before as its plain data. -/
def valueAsData : Payload → Payload
  | .value v => v.toPayload
  | p => p

/-- A payload with lists for its tuples. -/
def listed (p : Payload) : Payload :=
  p.rebuild tupleAsList

/-- A payload with plain data for the values in it. -/
def unwrapped (p : Payload) : Payload :=
  p.rebuild valueAsData

section Rebuild

variable {change : Payload → Payload}

/-- Items are changed one by one. -/
theorem rebuildItems_eq_map (items : List Payload) : rebuildItems change items = items.map (rebuild change) := by
  induction items with
  | nil => rfl
  | cons p rest ih => rw [rebuildItems, ih, List.map_cons]

/-- Entries are changed one by one. -/
theorem rebuildEntries_eq_map (entries : List (Payload × Payload)) :
    rebuildEntries change entries = entries.map fun e => (e.1, rebuild change e.2) := by
  induction entries with
  | nil => rfl
  | cons e rest ih => rw [rebuildEntries, ih, List.map_cons]

mutual

/-- A change that leaves all that is in a payload as it is leaves the payload as it is. -/
theorem rebuild_eq_self : ∀ {raw : Payload}, (∀ p : Payload, p.Within raw → change p = p) →
    rebuild change raw = raw
  | .list items, h => by
    rw [rebuild, rebuildItems_eq_self fun q hq p hp => h p (.list hq hp)]
    exact h _ .self
  | .tuple items, h => by
    rw [rebuild, rebuildItems_eq_self fun q hq p hp => h p (.tuple hq hp)]
    exact h _ .self
  | .mapping entries, h => by
    rw [rebuild, rebuildEntries_eq_self fun e he p hp => h p (.mapping he hp)]
    exact h _ .self
  | .null, h | .boolean _, h | .number _, h | .text _, h | .bytes _, h | .set _, h | .series .., h | .pattern _, h
  | .check _, h | .value _, h | .key _, h | .rule _, h | .request _, h | .policy _, h | .object _, h => h _ .self

/-- So it does items. -/
theorem rebuildItems_eq_self : ∀ {items : List Payload},
    (∀ q ∈ items, ∀ p : Payload, p.Within q → change p = p) → rebuildItems change items = items
  | [], _ => rfl
  | q :: rest, h => by
    rw [List.forall_mem_cons] at h
    rw [rebuildItems, rebuild_eq_self h.1, rebuildItems_eq_self h.2]

/-- So it does entries. -/
theorem rebuildEntries_eq_self : ∀ {entries : List (Payload × Payload)},
    (∀ e ∈ entries, ∀ p : Payload, p.Within e.2 → change p = p) → rebuildEntries change entries = entries
  | [], _ => rfl
  | (name, q) :: rest, h => by
    rw [List.forall_mem_cons] at h
    rw [rebuildEntries, rebuild_eq_self h.1, rebuildEntries_eq_self h.2]

end

end Rebuild

/-- A list keeps its place. -/
theorem listed_list (items : List Payload) : (list items).listed = .list (items.map listed) :=
  congrArg list (rebuildItems_eq_map items)

/-- A tuple becomes a list. -/
theorem listed_tuple (items : List Payload) : (tuple items).listed = .list (items.map listed) :=
  congrArg list (rebuildItems_eq_map items)

/-- A mapping keeps its place, and its entries theirs. -/
theorem listed_mapping (entries : List (Payload × Payload)) :
    (mapping entries).listed = .mapping (entries.map fun e => (e.1, e.2.listed)) :=
  congrArg mapping (rebuildEntries_eq_map entries)

/-- What is in a payload is there, with lists for its own tuples, when the payload has lists for its tuples. -/
theorem Within.listed {p raw : Payload} (h : p.Within raw) : p.listed.Within raw.listed := by
  induction h with
  | self => exact .self
  | list hq _ ih =>
    rw [listed_list]
    exact .list (List.mem_map_of_mem hq) ih
  | tuple hq _ ih =>
    rw [listed_tuple]
    exact .list (List.mem_map_of_mem hq) ih
  | mapping he _ ih =>
    rw [listed_mapping]
    exact .mapping (List.mem_map_of_mem he) ih

end Payload

/-! ## Plain data of values -/

namespace Value

/-- What is in the plain data of a value is plain data of a value. -/
theorem exists_of_within_toPayload {p q : Payload} (h : p.Within q) :
    ∀ {v : Value}, q = v.toPayload → ∃ w : Value, p = w.toPayload := by
  induction h with
  | self => exact fun hq => ⟨_, hq⟩
  | list hq _ ih =>
    intro v hv
    obtain ⟨w, hw⟩ := exists_of_mem_items (.inl hv.symm) hq
    exact ih hw
  | tuple hq _ ih =>
    intro v hv
    obtain ⟨w, hw⟩ := exists_of_mem_items (.inr hv.symm) hq
    exact ih hw
  | mapping he _ ih =>
    intro v hv
    cases v with
    | mapping entries =>
      obtain rfl := Payload.mapping.inj hv
      obtain ⟨w, hw⟩ := exists_of_mem_entryPayloads he
      exact ih hw
    | _ => cases hv

/-- There are no tuples in the plain data of a value. -/
theorem listed_toPayload (v : Value) : v.toPayload.listed = v.toPayload := by
  refine Payload.rebuild_eq_self fun p hp => ?_
  obtain ⟨w, rfl⟩ := exists_of_within_toPayload hp rfl
  cases w <;> rfl

/-- There are no values in the plain data of a value. -/
theorem not_within_toPayload (u v : Value) : ¬ (Payload.value u).Within v.toPayload := by
  intro h
  obtain ⟨w, hw⟩ := exists_of_within_toPayload h rfl
  cases w <;> cases hw

/-! ## Unwrapping what has been classified -/

mutual

/-- The plain data of what a payload is classified as. -/
theorem toPayload_eq_listed : ∀ {raw : Payload} {v : Value}, ofPayload raw = .ok v →
    v.toPayload = raw.unwrapped.listed
  | .null, _, h => by cases h; rfl
  | .boolean _, _, h => by cases h; rfl
  | .text _, _, h => by cases h; rfl
  | .value v, _, h => by
    cases h
    exact v.listed_toPayload.symm
  | .number n, v, h => by
    rw [ofPayload, ofNumber] at h
    split at h
    · cases h
      rfl
    · split at h <;> cases h
  | .list items, v, h => by
    rw [ofPayload] at h
    obtain ⟨vs, hvs, ⟨⟩⟩ := bind_eq_ok_iff.1 h
    exact congrArg Payload.list (itemPayloads_eq_listed hvs)
  | .tuple items, v, h => by
    rw [ofPayload] at h
    obtain ⟨vs, hvs, ⟨⟩⟩ := bind_eq_ok_iff.1 h
    exact congrArg Payload.list (itemPayloads_eq_listed hvs)
  | .mapping entries, v, h => by
    rw [ofPayload] at h
    obtain ⟨es, hes, ⟨⟩⟩ := bind_eq_ok_iff.1 h
    exact congrArg Payload.mapping (entryPayloads_eq_listed hes)
  | .bytes _, _, h | .set _, _, h | .series .., _, h | .pattern _, _, h | .check _, _, h | .key _, _, h
  | .rule _, _, h | .request _, _, h | .policy _, _, h | .object _, _, h => by cases h

/-- The plain data of what items are classified as. -/
theorem itemPayloads_eq_listed : ∀ {items : List Payload} {vs : List Value}, ofItems items = .ok vs →
    itemPayloads vs =
      Payload.rebuildItems Payload.tupleAsList (Payload.rebuildItems Payload.valueAsData items)
  | [], _, h => by cases h; rfl
  | p :: rest, vs, h => by
    rw [ofItems] at h
    obtain ⟨v, hv, h⟩ := bind_eq_ok_iff.1 h
    obtain ⟨ws, hws, ⟨⟩⟩ := bind_eq_ok_iff.1 h
    rw [itemPayloads, toPayload_eq_listed hv, itemPayloads_eq_listed hws]
    rfl

/-- The plain data of what entries are classified as. -/
theorem entryPayloads_eq_listed : ∀ {entries : List (Payload × Payload)} {es : List (String × Value)},
    ofEntries entries = .ok es →
      entryPayloads es =
        Payload.rebuildEntries Payload.tupleAsList (Payload.rebuildEntries Payload.valueAsData entries)
  | [], _, h => by cases h; rfl
  | (name, p) :: rest, es, h => by
    cases name with
    | text s =>
      rw [ofEntries] at h
      obtain ⟨v, hv, h⟩ := bind_eq_ok_iff.1 h
      obtain ⟨ws, hws, ⟨⟩⟩ := bind_eq_ok_iff.1 h
      rw [entryPayloads, toPayload_eq_listed hv, entryPayloads_eq_listed hws]
      rfl
    | _ => cases h

end

/-- What a payload is classified as is unwrapped as the payload with lists for its tuples if there are no values in
the payload, and only then. -/
theorem toPayload_eq_listed_iff {raw : Payload} {v : Value} (h : ofPayload raw = .ok v) :
    v.toPayload = raw.listed ↔ ∀ u, ¬ (Payload.value u).Within raw := by
  constructor
  · intro hlisted u hu
    have hwithin : (Payload.value u).Within v.toPayload := hlisted ▸ hu.listed
    exact not_within_toPayload u v hwithin
  · intro hnone
    have hunwrapped : raw.unwrapped = raw := Payload.rebuild_eq_self fun p hp => by
      cases p with
      | value u => exact absurd hp (hnone u)
      | _ => rfl
    rw [toPayload_eq_listed h, hunwrapped]

/-- What a payload is classified as is unwrapped as the payload with lists for its tuples and plain data for the values
that have been made before, and as the payload with lists for its tuples if there are no such values. What has been
unwrapped is classified as the same value, and encoded as this is. -/
theorem of_unwraps {raw : Payload} {v : Value} (h : Value.of raw = .ok v) :
    v.toPayload = raw.unwrapped.listed ∧
      (v.toPayload = raw.listed ↔ ∀ u, ¬ (Payload.value u).Within raw) ∧
      Value.of v.toPayload = .ok v ∧ v.toPayload.toAttribute = .ok v.toAttribute := by
  rw [Value.of, orRefuse_eq_ok_iff] at h
  refine ⟨toPayload_eq_listed h, toPayload_eq_listed_iff h, orRefuse_eq_ok_iff.2 (ofPayload_toPayload v), ?_⟩
  rw [Payload.toAttribute, ofPayload_toPayload]
  rfl

/-- A mapping with numbers of two kinds in a tuple, a truth value, and a value that has been made before. -/
def parcel : Payload :=
  .mapping [(.text "sizes", .tuple [.int 1, .number (.decimal (.finite false 10 (-1)))]),
    (.text "fragile", .boolean true), (.text "count", .value .one)]

/-- The tuple of the parcel comes back as a list and the value in it as a number; the numbers, though equal, keep
their kinds, and the truth value its own. -/
theorem of_unwraps_parcel :
    ∃ v, Value.of parcel = .ok v ∧
      v.toPayload = .mapping [(.text "sizes", .list [.int 1, .number (.decimal (.finite false 10 (-1)))]),
        (.text "fragile", .boolean true), (.text "count", .int 1)] ∧
      v.toPayload ≠ parcel.listed := by
  have haccepted : (Value.of parcel).toOption.isSome = true := by decide +kernel
  obtain ⟨v, hv⟩ := Option.isSome_iff_exists.1 haccepted
  rw [toOption_eq_some_iff] at hv
  obtain ⟨hplain, hlisted, -⟩ := of_unwraps hv
  refine ⟨v, hv, hplain, fun h => hlisted.1 h .one ?_⟩
  exact .mapping (List.mem_cons_of_mem _ (List.mem_cons_of_mem _ List.mem_cons_self)) .self

/-- A value that has been made before is unwrapped, and does not come back as it is. -/
theorem toPayload_one_ne_listed :
    Value.of (.list [.value .one]) = .ok (.sequence [.one]) ∧
      (Value.sequence [.one]).toPayload ≠ (Payload.list [.value .one]).listed :=
  ⟨rfl, nofun⟩

end Value

end Amend
