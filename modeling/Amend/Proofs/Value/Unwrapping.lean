import Amend.Value.Payload

/-!
# Values from their plain data

A value that is unwrapped is plain data, and this is classified as the value again
(`Value.ofPayload_toPayload`). Nothing about it is lost on the way: the kind of a number, the order of entries
and the names in a mapping are in the plain data as they are in the value.
-/

namespace Amend.Value

mutual

/-- The plain data of a value is classified as the value. -/
theorem ofPayload_toPayload : ∀ v : Value, ofPayload v.toPayload = .ok v
  | .null => rfl
  | .boolean _ => rfl
  | .number n => dif_pos n.storable
  | .text _ => rfl
  | .sequence items => by
    rw [toPayload, ofPayload, ofItems_itemPayloads items]
    rfl
  | .mapping entries => by
    rw [toPayload, ofPayload, ofEntries_entryPayloads entries]
    rfl

/-- The plain data of values is classified as them, in order. -/
theorem ofItems_itemPayloads : ∀ items : List Value, ofItems (itemPayloads items) = .ok items
  | [] => rfl
  | v :: rest => by
    rw [itemPayloads, ofItems, ofPayload_toPayload v, ofItems_itemPayloads rest]
    rfl

/-- So is that of entries, under their names. -/
theorem ofEntries_entryPayloads :
    ∀ entries : List (String × Value), ofEntries (entryPayloads entries) = .ok entries
  | [] => rfl
  | (name, v) :: rest => by
    rw [entryPayloads, ofEntries, ofPayload_toPayload v, ofEntries_entryPayloads rest]
    rfl

end

end Amend.Value
