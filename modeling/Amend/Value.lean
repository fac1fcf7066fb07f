import Amend.Attribute
import Amend.Number

/-!
# Values

A value is what classification makes of a payload that the store can hold: the payload, tagged by its kind.
Its numbers are those whose decimal reading the store keeps without a change, which is part of the type, so
encoding a value as an attribute cannot fail. There are no other values here: none is put together by hand,
with a kind and data that do not go together or with a number that the store cannot hold.
-/

namespace Amend

/-- A number that the store can hold. -/
structure StoredNumber where
  number : Number
  storable : number.storable = true
  deriving DecidableEq

/-- A value that the store can hold. -/
inductive Value where
  | null
  | boolean (b : Bool)
  | number (n : StoredNumber)
  | text (s : String)
  | sequence (items : List Value)
  | mapping (entries : List (String × Value))

namespace Value

instance : Inhabited Value := ⟨.null⟩

/-! ## Kinds -/

/-- The kinds of value. -/
inductive Kind where
  | number
  | string
  | boolean
  | sequence
  | mapping
  | null
  deriving DecidableEq, Repr

/-- The name of a kind. -/
def Kind.name : Kind → String
  | .number => "number"
  | .string => "string"
  | .boolean => "boolean"
  | .sequence => "sequence"
  | .mapping => "mapping"
  | .null => "null"

/-- The kind of a value. -/
def kind : Value → Kind
  | .null => .null
  | .boolean _ => .boolean
  | .number _ => .number
  | .text _ => .string
  | .sequence _ => .sequence
  | .mapping _ => .mapping

/-- True of numbers; a boolean is none. -/
def isNumber (v : Value) : Bool :=
  v.kind == .number

/-- True of sequences. -/
def isSequence (v : Value) : Bool :=
  v.kind == .sequence

/-- The number one. -/
def one : Value :=
  .number ⟨.int 1, by decide⟩

/-! ## Encoding -/

mutual

/-- The attribute that the store receives for a value. -/
def toAttribute : Value → Attribute
  | .null => .null
  | .boolean b => .boolean b
  | .number n => .number n.number.reading.text
  | .text s => .text s
  | .sequence items => .list (itemAttributes items)
  | .mapping entries => .map (entryAttributes entries)

/-- The attributes of the items of a sequence. -/
def itemAttributes : List Value → List Attribute
  | [] => []
  | v :: rest => v.toAttribute :: itemAttributes rest

/-- The attributes of the entries of a mapping. -/
def entryAttributes : List (String × Value) → List (String × Attribute)
  | [] => []
  | (name, v) :: rest => (name, v.toAttribute) :: entryAttributes rest

end

/-- A sequence becomes a list, item by item. -/
theorem itemAttributes_eq_map (items : List Value) : itemAttributes items = items.map toAttribute := by
  induction items with
  | nil => rfl
  | cons v rest ih => simp [itemAttributes, ih]

/-- A mapping becomes a map, entry by entry. -/
theorem entryAttributes_eq_map (entries : List (String × Value)) :
    entryAttributes entries = entries.map fun e => (e.1, e.2.toAttribute) := by
  induction entries with
  | nil => rfl
  | cons e rest ih => simp [entryAttributes, ih]

end Value

end Amend
