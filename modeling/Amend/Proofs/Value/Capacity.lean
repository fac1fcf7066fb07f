import Amend.Proofs.Payload.Shown
import Amend.Proofs.Request.Kinds
import Amend.Proofs.Value.Decoding

/-!
# What the store can hold

A payload is a value exactly if everything in it can be stored: `Payload.Within` says what is in a payload, and
`Payload.Storable` which data of its own each part may have. For a number this is a matter of the digits and the
exponent that it is written with (`Decimal.FitsStore`).

What is a value also passes the encoder of the store (`Payload.encode?`), which asks of every number again whether
it has to be rounded. `Value.of_holdable` puts this together. A value that has been made before is a value
wherever it stands, so it is the one thing that can be held without being data.
-/

namespace Amend

/-! ## Numbers -/

/-- A decimal fits into the store: it has at most thirty-eight digits, zeros at its end included, and it is
written without a place below `10 ^ -165` or above `10 ^ 126`. Zero has no digits, and only its exponent
counts. -/
def Decimal.FitsStore : Decimal → Prop
  | .finite _ c e =>
    (c ≠ 0 ∧ digitCount c ≤ 38 ∧ -165 ≤ e ∧ e + digitCount c - 1 ≤ 126) ∨ (c = 0 ∧ -165 ≤ e ∧ e ≤ 126)
  | _ => False

/-- The context of the store holds the decimals that fit into it. -/
theorem Decimal.holds_storeContext_iff {d : Decimal} : storeContext.holds d = true ↔ d.FitsStore := by
  cases d with
  | finite n c e =>
    rw [Context.holds_finite_iff (by decide), Context.HasRoom, FitsStore]
    by_cases hc : c = 0
    · simp [hc, storeContext, Context.tiny]
    · simp [hc, storeContext, Context.tiny, adjusted]
  | infinite n => simp [Context.holds, isFinite, FitsStore]
  | nan n s p m => simp [Context.holds, isFinite, FitsStore]

/-- The store can hold a number if the decimal that it is written as fits. -/
theorem Number.storable_iff {n : Number} :
    n.storable = true ↔ ∃ d, n.literal? = some d ∧ d.FitsStore := by
  rw [storable, Decimal.holds_storeContext_iff]
  have hread (d : Decimal) (h : n.literal? = some d) (hfits : n.reading.FitsStore ↔ d.FitsStore) :
      n.reading.FitsStore ↔ ∃ d, n.literal? = some d ∧ d.FitsStore := by
    simp [h, hfits]
  cases n with
  | int n => exact hread _ rfl .rfl
  | decimal d => exact hread _ rfl .rfl
  | double x =>
    cases x with
    | finite s m q canonical => exact hread _ (Double.ofText?_text rfl) .rfl
    | infinite s =>
      have hliteral : (Number.double (.infinite s)).literal? = some (.infinite s) := by
        cases s <;> decide +kernel
      exact hread _ hliteral .rfl
    | nan mark =>
      have hliteral : (Number.double (.nan mark)).literal? = some (.nan false false 0 0) := by
        have htext : (Double.nan mark).text = "nan" := rfl
        rw [literal?, htext]
        decide +kernel
      exact hread _ hliteral .rfl

/-! ## What is in a payload -/

namespace Payload

/-- A payload is in another one: as the payload itself, in an item of a list or tuple, or in a value of a
mapping. -/
inductive Within (p : Payload) : Payload → Prop
  | self : Within p p
  | list {items : List Payload} {q : Payload} (hq : q ∈ items) (h : Within p q) : Within p (.list items)
  | tuple {items : List Payload} {q : Payload} (hq : q ∈ items) (h : Within p q) : Within p (.tuple items)
  | mapping {entries : List (Payload × Payload)} {e : Payload × Payload} (he : e ∈ entries)
      (h : Within p e.2) : Within p (.mapping entries)

/-- The store can hold a payload as far as the payload itself goes, whatever is in it. -/
inductive Storable : Payload → Prop
  | null : Storable .null
  | boolean (b : Bool) : Storable (.boolean b)
  | text (s : String) : Storable (.text s)
  | list (items : List Payload) : Storable (.list items)
  | tuple (items : List Payload) : Storable (.tuple items)
  | mapping {entries : List (Payload × Payload)} (h : ∀ e ∈ entries, ∃ name, e.1 = .text name) :
      Storable (.mapping entries)
  | number {n : Number} {d : Decimal} (hd : n.literal? = some d) (h : d.FitsStore) : Storable (.number n)

/-- Everything in a payload can be stored, or is a value already. -/
def Holdable (raw : Payload) : Prop :=
  ∀ p : Payload, p.Within raw → p.Storable ∨ ∃ v, p = .value v

/-- A list can be held if its items can. -/
theorem holdable_list_iff {items : List Payload} : (list items).Holdable ↔ ∀ q ∈ items, q.Holdable := by
  constructor
  · exact fun h q hq p hp => h p (.list hq hp)
  · intro h p hp
    cases hp with
    | self => exact .inl (.list items)
    | list hq hp => exact h _ hq p hp

/-- A tuple can be held if its items can. -/
theorem holdable_tuple_iff {items : List Payload} : (tuple items).Holdable ↔ ∀ q ∈ items, q.Holdable := by
  constructor
  · exact fun h q hq p hp => h p (.tuple hq hp)
  · intro h p hp
    cases hp with
    | self => exact .inl (.tuple items)
    | tuple hq hp => exact h _ hq p hp

/-- A mapping can be held if its keys are texts and its values can be held. -/
theorem holdable_mapping_iff {entries : List (Payload × Payload)} :
    (mapping entries).Holdable ↔ ∀ e ∈ entries, (∃ name, e.1 = .text name) ∧ e.2.Holdable := by
  constructor
  · intro h e he
    refine ⟨?_, fun p hp => h p (.mapping he hp)⟩
    rcases h _ .self with hnames | ⟨v, hv⟩
    · cases hnames with
      | mapping hnames => exact hnames e he
    · cases hv
  · intro h p hp
    cases hp with
    | self => exact .inl (.mapping fun e he => (h e he).1)
    | mapping he hp => exact (h _ he).2 p hp

/-- A number can be held if the store can hold it. -/
theorem holdable_number_iff {n : Number} : (number n).Holdable ↔ n.storable = true := by
  rw [Number.storable_iff]
  constructor
  · intro h
    rcases h _ .self with hfits | ⟨v, hv⟩
    · cases hfits with
      | number hd hfits => exact ⟨_, hd, hfits⟩
    · cases hv
  · rintro ⟨d, hd, hfits⟩ p ⟨⟩
    exact .inl (.number hd hfits)

end Payload

/-! ## What is a value -/

namespace Value

mutual

/-- What is a value is what can be held. -/
theorem exists_ofPayload_iff : ∀ raw : Payload, (∃ v, ofPayload raw = .ok v) ↔ raw.Holdable
  | .null => iff_of_true ⟨_, rfl⟩ (by rintro _ (_ | _); exact .inl .null)
  | .boolean b => iff_of_true ⟨_, rfl⟩ (by rintro _ (_ | _); exact .inl (.boolean b))
  | .text s => iff_of_true ⟨_, rfl⟩ (by rintro _ (_ | _); exact .inl (.text s))
  | .value v => iff_of_true ⟨_, rfl⟩ (by rintro _ (_ | _); exact .inr ⟨v, rfl⟩)
  | .number n => by
    rw [Payload.holdable_number_iff, ofPayload, ofNumber]
    split
    · rename_i h
      exact iff_of_true ⟨_, rfl⟩ h
    · rename_i h
      refine iff_of_false ?_ h
      split <;> nofun
  | .list items => by
    rw [ofPayload, Payload.holdable_list_iff, ← exists_ofItems_iff items]
    exact exists_map_eq_ok_iff
  | .tuple items => by
    rw [ofPayload, Payload.holdable_tuple_iff, ← exists_ofItems_iff items]
    exact exists_map_eq_ok_iff
  | .mapping entries => by
    rw [ofPayload, Payload.holdable_mapping_iff, ← exists_ofEntries_iff entries]
    exact exists_map_eq_ok_iff
  | .bytes _ | .set _ | .series .. | .pattern _ | .check _ | .key _ | .rule _ | .request _ | .policy _
  | .object _ =>
    iff_of_false nofun fun h => by
      rcases h _ .self with hdata | ⟨_, hvalue⟩
      · cases hdata
      · cases hvalue

/-- Items are values if each of them can be held. -/
theorem exists_ofItems_iff : ∀ items : List Payload,
    (∃ vs, ofItems items = .ok vs) ↔ ∀ q ∈ items, q.Holdable
  | [] => iff_of_true ⟨_, rfl⟩ nofun
  | p :: rest => by
    rw [ofItems, List.forall_mem_cons, ← exists_ofPayload_iff p, ← exists_ofItems_iff rest]
    exact exists_map₂_eq_ok_iff

/-- Entries are values under names if their keys are texts and each of their values can be held. -/
theorem exists_ofEntries_iff : ∀ entries : List (Payload × Payload),
    (∃ es, ofEntries entries = .ok es) ↔ ∀ e ∈ entries, (∃ name, e.1 = .text name) ∧ e.2.Holdable
  | [] => iff_of_true ⟨_, rfl⟩ nofun
  | (name, p) :: rest => by
    rw [List.forall_mem_cons, ← exists_ofPayload_iff p, ← exists_ofEntries_iff rest]
    cases name with
    | text s =>
      rw [ofEntries]
      refine exists_map₂_eq_ok_iff.trans ?_
      simp
    | _ => exact iff_of_false nofun fun h => by simp at h

end

end Value

/-! ## The encoder of the store -/

namespace Payload

mutual

/-- What the encoder of the store makes of plain data, if it takes it. It takes no doubles, and no number that
it would have to change for its context. -/
def encode? : Payload → Option Attribute
  | .null => some .null
  | .boolean b => some (.boolean b)
  | .number (.double _) => none
  | .number n =>
    if Decimal.storeContext.holds n.reading then
      some (.number (Decimal.storeContext.fit n.reading).1.text)
    else none
  | .text s => some (.text s)
  | .list items => (encodeItems? items).map .list
  | .tuple items => (encodeItems? items).map .list
  | .mapping entries => (encodeEntries? entries).map .map
  | _ => none

/-- What the encoder makes of items, one after another. -/
def encodeItems? : List Payload → Option (List Attribute)
  | [] => some []
  | p :: rest => do return (← p.encode?) :: (← encodeItems? rest)

/-- What the encoder makes of entries, one after another. -/
def encodeEntries? : List (Payload × Payload) → Option (List (String × Attribute))
  | [] => some []
  | (.text name, p) :: rest => do return (name, ← p.encode?) :: (← encodeEntries? rest)
  | _ :: _ => none

end

end Payload

/-- A number as it is handed to the encoder: a double as the decimal that it is written as. -/
def Number.handed : Number → Number
  | .double x => .decimal x.reading
  | n => n

namespace Value

mutual

/-- A value as it is handed to the encoder: plain data without doubles. -/
def handed : Value → Payload
  | .null => .null
  | .boolean b => .boolean b
  | .number n => .number n.number.handed
  | .text s => .text s
  | .sequence items => .list (handedItems items)
  | .mapping entries => .mapping (handedEntries entries)

/-- The items of a sequence as they are handed to the encoder. -/
def handedItems : List Value → List Payload
  | [] => []
  | v :: rest => v.handed :: handedItems rest

/-- The entries of a mapping as they are handed to the encoder. -/
def handedEntries : List (String × Value) → List (Payload × Payload)
  | [] => []
  | (name, v) :: rest => (.text name, v.handed) :: handedEntries rest

end

/-- The encoder takes a number that the store can hold, and does not change it. -/
theorem encode?_handed_number {n : Number} (h : n.storable = true) :
    (Payload.number n.handed).encode? = some (.number n.reading.text) := by
  have hholds : Decimal.storeContext.holds n.reading = true := h
  have hencode : (if Decimal.storeContext.holds n.reading then
      some (Attribute.number (Decimal.storeContext.fit n.reading).1.text) else none) =
        some (.number n.reading.text) := by
    rw [if_pos hholds, Decimal.Context.fst_fit_of_holds (by decide) hholds]
  cases n <;> exact hencode

mutual

/-- The encoder takes every value. -/
theorem encode?_handed : ∀ v : Value, v.handed.encode? = some v.toAttribute
  | .null => rfl
  | .boolean _ => rfl
  | .text _ => rfl
  | .number n => encode?_handed_number n.storable
  | .sequence items => by
    rw [handed, Payload.encode?, encodeItems?_handedItems items]
    rfl
  | .mapping entries => by
    rw [handed, Payload.encode?, encodeEntries?_handedEntries entries]
    rfl

/-- So it does the items of a sequence. -/
theorem encodeItems?_handedItems : ∀ items : List Value,
    Payload.encodeItems? (handedItems items) = some (itemAttributes items)
  | [] => rfl
  | v :: rest => by
    rw [handedItems, Payload.encodeItems?, encode?_handed v, encodeItems?_handedItems rest]
    rfl

/-- So it does the entries of a mapping. -/
theorem encodeEntries?_handedEntries : ∀ entries : List (String × Value),
    Payload.encodeEntries? (handedEntries entries) = some (entryAttributes entries)
  | [] => rfl
  | (name, v) :: rest => by
    rw [handedEntries, Payload.encodeEntries?, encode?_handed v, encodeEntries?_handedEntries rest]
    rfl

end

/-- A payload is classified exactly if everything in it can be stored or is a value already, and is unsupported
otherwise, which can always be told of a payload that can be shown; and the encoder of the store takes every
value. -/
theorem of_holdable (raw : Payload) :
    ((∃ v, Value.of raw = .ok v) ↔ raw.Holdable) ∧
      (∀ e, Value.of raw = .error (.refused e) → e.kind = .unsupportedValue) ∧
      (∀ f, Value.of raw = .error (.fault f) → f = .longInteger ∧ raw.isShowable = false) ∧
      ∀ v, Value.of raw = .ok v → v.handed.encode? = some v.toAttribute := by
  refine ⟨?_, ?_, ?_, fun v _ => v.encode?_handed⟩
  · simp only [Value.of, orRefuse_eq_ok_iff]
    exact exists_ofPayload_iff raw
  · intro e he
    exact List.mem_singleton.1 (failsOnly_ofPayload raw e (orRefuse_eq_refused_iff.1 he).1)
  · intro f hf
    refine ⟨(orRefuse_eq_fault_iff.1 hf).2, Bool.eq_false_iff.2 fun hshown => ?_⟩
    exact (tells_ofPayload raw hshown).orRefuse_ne_fault f hf

/-- A mapping with numbers at the limits of the store: the smallest one, a negative one with all thirty-eight
digits, and the zero with the greatest exponent. -/
def limits : Payload :=
  .mapping [(.text "smallest", .number (.decimal (.finite false 1 (-165)))),
    (.text "others", .tuple [.number (.decimal (.finite true (10 ^ 38 - 1) 89)),
      .number (.decimal (.finite false 0 126)), .null])]

/-- The mapping can be held and encoded; the least integer with thirty-nine digits cannot, though it is a power
of ten. -/
theorem of_holdable_limits :
    limits.Holdable ∧ (∃ v, Value.of limits = .ok v ∧ v.handed.encode? = some v.toAttribute) ∧
      ∃ e, Value.of (.list [limits, .int (10 ^ 38)]) = .error (.refused e) ∧ e.kind = .unsupportedValue := by
  have haccepted : (Value.of limits).toOption.isSome = true := by decide +kernel
  have hrefused : (Value.of (.list [limits, .int (10 ^ 38)])).toOption.isSome = false := by decide +kernel
  obtain ⟨hiff, -, -, hencoded⟩ := of_holdable limits
  obtain ⟨-, hkind, hfault, -⟩ := of_holdable (.list [limits, .int (10 ^ 38)])
  cases hv : Value.of limits with
  | error e =>
    rw [hv] at haccepted
    cases haccepted
  | ok v =>
    refine ⟨hiff.1 ⟨v, hv⟩, ⟨v, rfl, hencoded v hv⟩, ?_⟩
    cases he : Value.of (.list [limits, .int (10 ^ 38)]) with
    | ok w =>
      rw [he] at hrefused
      cases hrefused
    | error e =>
      cases e with
      | refused e => exact ⟨e, rfl, hkind e he⟩
      | fault f => exact absurd (hfault f he).2 (by decide +kernel)

/-- A value that has been made before is no data of a kind that can be stored, and is a value all the same. -/
theorem not_storable_value_one :
    Value.of (.value .one) = .ok .one ∧ ¬ ∀ p : Payload, p.Within (.value .one) → p.Storable := by
  refine ⟨rfl, fun h => ?_⟩
  cases h _ .self

end Value

end Amend
