import Amend.Proofs.Double.Text
import Amend.Proofs.Number
import Amend.Proofs.Stages
import Amend.Value.Payload

/-!
# Values read back from attributes

An attribute can be read back as plain data, its numbers as decimals (`Attribute.decode?`). What is read back
from the attribute of a payload is the payload itself in decimal form, where every tuple is a list and every
number the decimal that it is written as (`Payload.toAttribute_readsBack`). So the attribute has lost nothing:
not the order of entries, nor the sign of a zero, nor the zeros at the end of a number.
-/

namespace Amend

/-! ## Reading attributes -/

namespace Attribute

mutual

/-- An attribute as plain data, if all its numbers can be read. -/
def decode? : Attribute → Option Payload
  | .text s => some (.text s)
  | .number digits => (Decimal.ofText? digits).map fun d => .number (.decimal d)
  | .boolean b => some (.boolean b)
  | .null => some .null
  | .list items => (decodeItems? items).map .list
  | .map entries => (decodeEntries? entries).map .mapping

/-- The items of a list as plain data. -/
def decodeItems? : List Attribute → Option (List Payload)
  | [] => some []
  | a :: rest => do return (← a.decode?) :: (← decodeItems? rest)

/-- The entries of a map as plain data, in order. -/
def decodeEntries? : List (String × Attribute) → Option (List (Payload × Payload))
  | [] => some []
  | (name, a) :: rest => do return (.text name, ← a.decode?) :: (← decodeEntries? rest)

end

end Attribute

/-! ## Decimal forms -/

/-- The decimal that a number is written as: an integer has no places after the point, and of a double the
text is read. -/
def Number.literal? : Number → Option Decimal
  | .int n => some (.ofInt n)
  | .double x => Decimal.ofText? x.text
  | .decimal d => some d

namespace Value

mutual

/-- A value as plain data with all its numbers as decimals. -/
def decimalForm? : Value → Option Payload
  | .null => some .null
  | .boolean b => some (.boolean b)
  | .number n => n.number.literal?.map fun d => .number (.decimal d)
  | .text s => some (.text s)
  | .sequence items => (itemForms? items).map .list
  | .mapping entries => (entryForms? entries).map .mapping

/-- The items of a sequence in decimal form. -/
def itemForms? : List Value → Option (List Payload)
  | [] => some []
  | v :: rest => do return (← v.decimalForm?) :: (← itemForms? rest)

/-- The entries of a mapping in decimal form. -/
def entryForms? : List (String × Value) → Option (List (Payload × Payload))
  | [] => some []
  | (name, v) :: rest => do return (.text name, ← v.decimalForm?) :: (← entryForms? rest)

end

end Value

namespace Payload

mutual

/-- A payload with tuples as lists and numbers as decimals. Where it holds a value, that is unwrapped. -/
def decimalForm? : Payload → Option Payload
  | .number n => n.literal?.map fun d => .number (.decimal d)
  | .list items => (itemForms? items).map .list
  | .tuple items => (itemForms? items).map .list
  | .mapping entries => (entryForms? entries).map .mapping
  | .value v => v.decimalForm?
  | p => some p

/-- Items in decimal form. -/
def itemForms? : List Payload → Option (List Payload)
  | [] => some []
  | p :: rest => do return (← p.decimalForm?) :: (← itemForms? rest)

/-- Entries in decimal form, under the same names. -/
def entryForms? : List (Payload × Payload) → Option (List (Payload × Payload))
  | [] => some []
  | (name, p) :: rest => do return (name, ← p.decimalForm?) :: (← entryForms? rest)

end

end Payload

/-! ## Numbers -/

/-- The decimal that a number is written as is its reading, if it is finite. -/
theorem Number.literal?_eq {n : Number} (h : n.reading.isFinite = true) : n.literal? = some n.reading := by
  cases n with
  | int n => rfl
  | decimal d => rfl
  | double x =>
    cases x with
    | finite s m q canonical => exact Double.ofText?_text rfl
    | infinite s => cases h
    | nan mark => cases h

/-- The attribute of a number that the store can hold reads back as the decimal that the number is written
as. -/
theorem StoredNumber.ofText?_text (n : StoredNumber) :
    Decimal.ofText? n.number.reading.text = n.number.literal? := by
  have hfinite := Number.isFinite_of_storable n.storable
  rw [Decimal.ofText?_text hfinite, Number.literal?_eq hfinite]

/-! ## Values -/

namespace Value

mutual

/-- The attribute of a value reads back as its decimal form. -/
theorem decode?_toAttribute : ∀ v : Value, v.toAttribute.decode? = v.decimalForm?
  | .null => rfl
  | .boolean _ => rfl
  | .text _ => rfl
  | .number n => by rw [toAttribute, Attribute.decode?, decimalForm?, n.ofText?_text]
  | .sequence items => by
    rw [toAttribute, Attribute.decode?, decimalForm?, decodeItems?_itemAttributes items]
  | .mapping entries => by
    rw [toAttribute, Attribute.decode?, decimalForm?, decodeEntries?_entryAttributes entries]

/-- So do the attributes of items. -/
theorem decodeItems?_itemAttributes :
    ∀ items : List Value, Attribute.decodeItems? (itemAttributes items) = itemForms? items
  | [] => rfl
  | v :: rest => by
    rw [itemAttributes, Attribute.decodeItems?, itemForms?, decode?_toAttribute v,
      decodeItems?_itemAttributes rest]

/-- So do the attributes of entries, in order. -/
theorem decodeEntries?_entryAttributes :
    ∀ entries : List (String × Value),
      Attribute.decodeEntries? (entryAttributes entries) = entryForms? entries
  | [] => rfl
  | (name, v) :: rest => by
    rw [entryAttributes, Attribute.decodeEntries?, entryForms?, decode?_toAttribute v,
      decodeEntries?_entryAttributes rest]

end

mutual

/-- Every value has a decimal form, as its numbers are finite. -/
theorem exists_decimalForm? : ∀ v : Value, ∃ p, v.decimalForm? = some p
  | .null => ⟨_, rfl⟩
  | .boolean _ => ⟨_, rfl⟩
  | .text _ => ⟨_, rfl⟩
  | .number n =>
    ⟨_, by rw [decimalForm?, Number.literal?_eq (Number.isFinite_of_storable n.storable)]; rfl⟩
  | .sequence items => by
    obtain ⟨ps, hps⟩ := exists_itemForms? items
    exact ⟨_, by rw [decimalForm?, hps]; rfl⟩
  | .mapping entries => by
    obtain ⟨es, hes⟩ := exists_entryForms? entries
    exact ⟨_, by rw [decimalForm?, hes]; rfl⟩

/-- So have items. -/
theorem exists_itemForms? : ∀ items : List Value, ∃ ps, itemForms? items = some ps
  | [] => ⟨_, rfl⟩
  | v :: rest => by
    obtain ⟨p, hp⟩ := exists_decimalForm? v
    obtain ⟨ps, hps⟩ := exists_itemForms? rest
    exact ⟨_, by rw [itemForms?, hp, hps]; rfl⟩

/-- So have entries. -/
theorem exists_entryForms? : ∀ entries : List (String × Value), ∃ es, entryForms? entries = some es
  | [] => ⟨_, rfl⟩
  | (name, v) :: rest => by
    obtain ⟨p, hp⟩ := exists_decimalForm? v
    obtain ⟨es, hes⟩ := exists_entryForms? rest
    exact ⟨_, by rw [entryForms?, hp, hes]; rfl⟩

end

end Value

/-! ## Payloads -/

namespace Payload

mutual

/-- A payload has the decimal form of the value that it is. -/
theorem decimalForm?_of_ofPayload : ∀ {raw : Payload} {v : Value}, Value.ofPayload raw = .ok v →
    raw.decimalForm? = v.decimalForm?
  | .null, _, h => by cases h; rfl
  | .boolean _, _, h => by cases h; rfl
  | .text _, _, h => by cases h; rfl
  | .value _, _, h => by cases h; rfl
  | .number n, v, h => by
    rw [Value.ofPayload, Value.ofNumber] at h
    split at h
    · cases h
      rfl
    · split at h <;> cases h
  | .list items, v, h => by
    rw [Value.ofPayload] at h
    obtain ⟨vs, hvs, ⟨⟩⟩ := bind_eq_ok_iff.1 h
    rw [decimalForm?, Value.decimalForm?, itemForms?_of_ofItems hvs]
  | .tuple items, v, h => by
    rw [Value.ofPayload] at h
    obtain ⟨vs, hvs, ⟨⟩⟩ := bind_eq_ok_iff.1 h
    rw [decimalForm?, Value.decimalForm?, itemForms?_of_ofItems hvs]
  | .mapping entries, v, h => by
    rw [Value.ofPayload] at h
    obtain ⟨es, hes, ⟨⟩⟩ := bind_eq_ok_iff.1 h
    rw [decimalForm?, Value.decimalForm?, entryForms?_of_ofEntries hes]
  | .bytes _, _, h => by cases h
  | .set _, _, h => by cases h
  | .series .., _, h => by cases h
  | .pattern _, _, h => by cases h
  | .check _, _, h => by cases h
  | .key _, _, h => by cases h
  | .rule _, _, h => by cases h
  | .request _, _, h => by cases h
  | .policy _, _, h => by cases h
  | .object _, _, h => by cases h

/-- Items have the decimal forms of the values that they are. -/
theorem itemForms?_of_ofItems : ∀ {items : List Payload} {vs : List Value}, Value.ofItems items = .ok vs →
    itemForms? items = Value.itemForms? vs
  | [], _, h => by cases h; rfl
  | p :: rest, vs, h => by
    rw [Value.ofItems] at h
    obtain ⟨v, hv, h⟩ := bind_eq_ok_iff.1 h
    obtain ⟨ws, hws, ⟨⟩⟩ := bind_eq_ok_iff.1 h
    rw [itemForms?, Value.itemForms?, decimalForm?_of_ofPayload hv, itemForms?_of_ofItems hws]

/-- Entries have the decimal forms of the values that they are, under the same names. -/
theorem entryForms?_of_ofEntries : ∀ {entries : List (Payload × Payload)} {es : List (String × Value)},
    Value.ofEntries entries = .ok es → entryForms? entries = Value.entryForms? es
  | [], _, h => by cases h; rfl
  | (name, p) :: rest, es, h => by
    cases name with
    | text s =>
      rw [Value.ofEntries] at h
      obtain ⟨v, hv, h⟩ := bind_eq_ok_iff.1 h
      obtain ⟨ws, hws, ⟨⟩⟩ := bind_eq_ok_iff.1 h
      rw [entryForms?, Value.entryForms?, decimalForm?_of_ofPayload hv, entryForms?_of_ofEntries hws]
    | _ => cases h

end

/-- What a payload is encoded as reads back as the payload in decimal form, and a truth value as itself. -/
theorem toAttribute_readsBack {raw : Payload} {v : Value} (h : Value.ofPayload raw = .ok v) :
    ∃ a plain, raw.toAttribute = .ok a ∧ a.decode? = some plain ∧ raw.decimalForm? = some plain ∧
      ∀ b, raw = .boolean b → a = .boolean b ∧ plain = .boolean b := by
  obtain ⟨plain, hplain⟩ := v.exists_decimalForm?
  refine ⟨v.toAttribute, plain, ?_, ?_, ?_, ?_⟩
  · rw [toAttribute, h]
    rfl
  · rw [v.decode?_toAttribute, hplain]
  · rw [decimalForm?_of_ofPayload h, hplain]
  · rintro b rfl
    cases h
    cases hplain
    exact ⟨rfl, rfl⟩

/-- The double `1.5`. -/
def oneAndHalf : Double :=
  .finite false 6755399441055744 (-52) (by decide)

/-- A mapping with a truth value and a tuple of numbers of each kind, of which one is a negative zero. -/
def measurement : Payload :=
  .mapping [(.text "valid", .boolean true),
    (.text "readings", .tuple [.int (-7), .number (.decimal (.finite false 150 (-2))),
      .number (.double oneAndHalf), .number (.double (.zero true))])]

/-- The readings come back with their signs, coefficients and exponents. -/
theorem toAttribute_readsBack_measurement :
    ∃ a, measurement.toAttribute = .ok a ∧
      a.decode? = some (.mapping [(.text "valid", .boolean true),
        (.text "readings", .list [.number (.decimal (.finite true 7 0)),
          .number (.decimal (.finite false 150 (-2))), .number (.decimal (.finite false 15 (-1))),
          .number (.decimal (.finite true 0 (-1)))])]) := by
  have haccepted : (Value.ofPayload measurement).toOption.isSome = true := by decide +kernel
  have hint : (Number.int (-7)).literal? = some (.finite true 7 0) := rfl
  have hdecimal : (Number.decimal (.finite false 150 (-2))).literal? = some (.finite false 150 (-2)) := rfl
  have hhalf : (Number.double oneAndHalf).literal? = some (.finite false 15 (-1)) := by decide +kernel
  have hzero : (Number.double (.zero true)).literal? = some (.finite true 0 (-1)) := by decide +kernel
  cases hv : Value.ofPayload measurement with
  | error e =>
    rw [hv] at haccepted
    cases haccepted
  | ok v =>
    obtain ⟨a, plain, ha, hdecode, hplain, -⟩ := toAttribute_readsBack hv
    refine ⟨a, ha, ?_⟩
    rw [hdecode, ← hplain]
    simp [measurement, decimalForm?, entryForms?, itemForms?, hint, hdecimal, hhalf, hzero]

end Payload

end Amend
