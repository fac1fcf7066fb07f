import Amend.Proofs.Expression.Effect
import Amend.Proofs.Number

/-!
# The meaning of a compiled expression

A request says what is to become of the fields of a record: `Request.Applied` puts it down in terms of the
fields before and after, with numbers as rational numbers and no regard to how they are written, and
`Request.Fits` says on which records it can be done. The expression that is compiled for the request does
just that (`Expression.compile_meaning`).

The proof goes by way of the instructions: the text says one statement, the statement is read back as the
instructions of the request, it does what these do, and these do what the request says.
-/

namespace Amend

/-! ## Amounts and items -/

namespace Attribute

/-- The number that an attribute stands for. -/
def amount? : Attribute → Option ℚ
  | .number s => (Decimal.ofText? s).bind Decimal.value?
  | _ => none

/-- The items of a list. -/
def items? : Attribute → Option (List Attribute)
  | .list items => some items
  | _ => none

/-- Two numbers have a sum, and it stands for the sum of what they stand for. -/
theorem exists_sum? {a b : Attribute} {x y : ℚ} (ha : a.amount? = some x) (hb : b.amount? = some y) :
    ∃ c, a.sum? b = some c ∧ c.amount? = some (x + y) := by
  cases a with
  | number s =>
    cases b with
    | number t =>
      obtain ⟨c, hc, hx⟩ := Option.bind_eq_some_iff.1 ha
      obtain ⟨d, hd, hy⟩ := Option.bind_eq_some_iff.1 hb
      obtain ⟨z, hz, hfinite, hvalue⟩ := Decimal.value_sum hx hy
      refine ⟨.number z.text, by simp [sum?, hc, hd, hz], ?_⟩
      rw [amount?, Decimal.ofText?_text hfinite]
      exact hvalue
    | _ => cases hb
  | _ => cases ha

/-- What has a sum with something is a number. -/
theorem isSome_amount?_of_sum? {a b c : Attribute} (h : a.sum? b = some c) : a.amount?.isSome = true := by
  cases a with
  | number s =>
    cases b with
    | number t =>
      obtain ⟨x, hx, y, -, z, hz, -⟩ : ∃ x, Decimal.ofText? s = some x ∧ ∃ y, Decimal.ofText? t = some y ∧
          ∃ z, Decimal.sum? x y = some z ∧ .number z.text = c := by
        simpa [sum?, Option.bind_eq_some_iff] using h
      obtain ⟨q, hq⟩ := Decimal.exists_value? (Decimal.isFinite_of_sum? hz)
      rw [amount?, hx]
      exact Option.isSome_iff_exists.2 ⟨q, hq⟩
    | _ => cases h
  | _ => cases h

end Attribute

namespace Value

/-- The number that a value is. -/
def amount? : Value → Option ℚ
  | .number n => n.number.reading.value?
  | _ => none

/-- The items of a sequence. -/
def items? : Value → Option (List Value)
  | .sequence items => some items
  | _ => none

/-- A value that is a number is encoded as that number. -/
theorem exists_amount? {v : Value} (h : v.isNumber = true) :
    ∃ x, v.amount? = some x ∧ v.toAttribute.amount? = some x := by
  cases v with
  | number n =>
    have hfinite := Number.isFinite_of_storable n.storable
    obtain ⟨x, hx⟩ := Decimal.exists_value? hfinite
    refine ⟨x, hx, ?_⟩
    rw [toAttribute, Attribute.amount?, Decimal.ofText?_text hfinite]
    exact hx
  | _ => cases h

/-- A sequence is encoded item by item. -/
theorem exists_items? {v : Value} (h : v.isSequence = true) :
    ∃ items, v.items? = some items ∧ v.toAttribute = .list (items.map toAttribute) := by
  cases v with
  | sequence items => exact ⟨items, rfl, by rw [toAttribute, itemAttributes_eq_map]⟩
  | _ => cases h

end Value

/-- The number in a field, a missing one counting as zero. -/
def amountAt? (item : NameMap Attribute) (f : String) : Option ℚ :=
  match item.get? f with
  | some a => a.amount?
  | none => some 0

/-- The items of the list in a field, a missing one counting as empty. -/
def itemsAt? (item : NameMap Attribute) (f : String) : Option (List Attribute) :=
  match item.get? f with
  | some a => a.items?
  | none => some []

/-- What increments start from counts as zero. -/
theorem amountAt?_eq (item : NameMap Attribute) (f : String) :
    amountAt? item f = ((item.get? f).getD .zero).amount? := by
  have hzero : Attribute.zero.amount? = some 0 := by
    have htext : Decimal.ofText? "0" = some (.finite false 0 0) := by decide
    rw [Attribute.zero, Attribute.amount?, htext]
    simp [Decimal.value?, Decimal.signed]
  rw [amountAt?]
  cases item.get? f with
  | some a => rfl
  | none => exact hzero.symm

/-- What appends start from counts as empty. -/
theorem itemsAt?_eq (item : NameMap Attribute) (f : String) :
    itemsAt? item f = ((item.get? f).getD .emptyList).items? := by
  rw [itemsAt?]
  cases item.get? f <;> rfl

/-! ## What a request asks for -/

namespace Request

/-- A request can be done to the fields of a record: numbers are added to numbers, and lists appended to
lists. -/
structure Fits (r : Request) (item : NameMap Attribute) : Prop where
  numbers : ∀ f ∈ r.increment.keys, (amountAt? item f).isSome = true
  lists : ∀ f ∈ r.append.keys, (itemsAt? item f).isSome = true

/-- What a request makes of the fields of a record. -/
structure Applied (r : Request) (old new : NameMap Attribute) : Prop where
  assigned : ∀ f v, r.assign.get? f = some v → new.get? f = some v.toAttribute
  incremented : ∀ f v, r.increment.get? f = some v →
    ∃ x y, amountAt? old f = some x ∧ v.amount? = some y ∧
      (new.get? f).bind Attribute.amount? = some (x + y)
  appended : ∀ f v, r.append.get? f = some v →
    ∃ xs ys, itemsAt? old f = some xs ∧ v.items? = some ys ∧
      new.get? f = some (.list (xs ++ ys.map Value.toAttribute))
  removed : ∀ f ∈ r.remove, new.get? f = none
  untouched : ∀ f, f ∉ r.fields.all → new.get? f = old.get? f

end Request

namespace Instruction

/-- An increment by a number can be done where there is a number. -/
theorem isSome_write?_increment {item : NameMap Attribute} {f : String} {v : Value}
    (hv : v.isNumber = true) :
    ((Instruction.increment f v.toAttribute).write? item).isSome = true ↔
      (amountAt? item f).isSome = true := by
  obtain ⟨y, -, hy⟩ := Value.exists_amount? hv
  rw [write?, amountAt?_eq, Option.isSome_map]
  constructor
  · intro h
    obtain ⟨c, hc⟩ := Option.isSome_iff_exists.1 h
    exact Attribute.isSome_amount?_of_sum? hc
  · intro h
    obtain ⟨x, hx⟩ := Option.isSome_iff_exists.1 h
    obtain ⟨c, hc, -⟩ := Attribute.exists_sum? hx hy
    exact Option.isSome_iff_exists.2 ⟨c, hc⟩

/-- A sequence can be appended where there is a list. -/
theorem isSome_write?_append {item : NameMap Attribute} {f : String} {v : Value}
    (hv : v.isSequence = true) :
    ((Instruction.append f v.toAttribute).write? item).isSome = true ↔
      (itemsAt? item f).isSome = true := by
  obtain ⟨ys, -, hy⟩ := Value.exists_items? hv
  rw [write?, itemsAt?_eq, Option.isSome_map, hy]
  cases (item.get? f).getD .emptyList <;> rfl

end Instruction

namespace Request

variable {r : Request}

/-! ## Instructions do what a request asks for -/

/-- A request fits a record exactly if each of its instructions can be done. -/
theorem fits_iff (hincrement : ∀ e ∈ r.increment.entries, e.2.isNumber = true)
    (happend : ∀ e ∈ r.append.entries, e.2.isSequence = true) (item : NameMap Attribute) :
    r.Fits item ↔ ∀ i ∈ r.instructions, (i.write? item).isSome = true := by
  constructor
  · intro h i hi
    rcases mem_instructions.1 hi with ⟨e, he, rfl⟩ | ⟨e, he, rfl⟩ | ⟨e, he, rfl⟩ | ⟨f, hf, rfl⟩
    · rfl
    · exact (Instruction.isSome_write?_increment (hincrement e he)).2
        (h.numbers e.1 (List.mem_map_of_mem he))
    · exact (Instruction.isSome_write?_append (happend e he)).2
        (h.lists e.1 (List.mem_map_of_mem he))
    · rfl
  · intro h
    constructor
    · intro f hf
      obtain ⟨e, he, rfl⟩ := List.mem_map.1 hf
      exact (Instruction.isSome_write?_increment (hincrement e he)).1
        (h _ (mem_instructions.2 (Or.inr (Or.inl ⟨e, he, rfl⟩))))
    · intro f hf
      obtain ⟨e, he, rfl⟩ := List.mem_map.1 hf
      exact (Instruction.isSome_write?_append (happend e he)).1
        (h _ (mem_instructions.2 (Or.inr (Or.inr (Or.inl ⟨e, he, rfl⟩)))))

/-- Once its instructions are run, a request is done. -/
theorem applied_of_runAll? {item new : NameMap Attribute}
    (hincrement : ∀ e ∈ r.increment.entries, e.2.isNumber = true)
    (happend : ∀ e ∈ r.append.entries, e.2.isSequence = true)
    (h : Instruction.runAll? r.instructions item = some new) : r.Applied item new := by
  constructor
  · intro f v hv
    have hmem := OrderedMap.get?_eq_some_iff.1 hv
    obtain ⟨w, hw, hnew⟩ := Instruction.get?_of_runAll? h (mem_instructions.2 (Or.inl ⟨_, hmem, rfl⟩))
    obtain rfl := Option.some.inj hw
    exact hnew
  · intro f v hv
    have hmem := OrderedMap.get?_eq_some_iff.1 hv
    obtain ⟨w, hw, hnew⟩ :=
      Instruction.get?_of_runAll? h (mem_instructions.2 (Or.inr (Or.inl ⟨_, hmem, rfl⟩)))
    obtain ⟨c, hc, rfl⟩ := Option.map_eq_some_iff.1 hw
    obtain ⟨x, hx⟩ := Option.isSome_iff_exists.1 (Attribute.isSome_amount?_of_sum? hc)
    obtain ⟨y, hy, hy'⟩ := Value.exists_amount? (hincrement _ hmem)
    obtain ⟨d, hd, hsum⟩ := Attribute.exists_sum? hx hy'
    obtain rfl := Option.some.inj (hc.symm.trans hd)
    refine ⟨x, y, (amountAt?_eq item f).trans hx, hy, ?_⟩
    have hget : new.get? f = some c := hnew
    rw [hget]
    exact hsum
  · intro f v hv
    have hmem := OrderedMap.get?_eq_some_iff.1 hv
    obtain ⟨w, hw, hnew⟩ :=
      Instruction.get?_of_runAll? h (mem_instructions.2 (Or.inr (Or.inr (Or.inl ⟨_, hmem, rfl⟩))))
    obtain ⟨c, hc, rfl⟩ := Option.map_eq_some_iff.1 hw
    obtain ⟨ys, hys, hlist⟩ := Value.exists_items? (happend _ hmem)
    rw [hlist] at hc
    cases hold : (item.get? f).getD .emptyList with
    | list xs =>
      rw [hold] at hc
      obtain rfl := Option.some.inj hc
      exact ⟨xs, ys, by rw [itemsAt?_eq, hold]; rfl, hys, hnew⟩
    | _ =>
      rw [hold] at hc
      cases hc
  · intro f hf
    obtain ⟨w, hw, hnew⟩ :=
      Instruction.get?_of_runAll? h (mem_instructions.2 (Or.inr (Or.inr (Or.inr ⟨f, hf, rfl⟩))))
    obtain rfl := Option.some.inj hw
    exact hnew
  · intro f hf
    refine Instruction.get?_of_runAll?_of_not_mem h fun hmem => hf ?_
    rw [map_field_instructions] at hmem
    exact (Expression.perm_all r).subset hmem

end Request

namespace Expression

/-- A request that names a field, and no field twice, with numbers to add and sequences to append, is
compiled to a text that can be read in exactly one way. Run on any record that the request fits, what the
text says makes of its fields what the request says; on any other record the update is refused. -/
theorem compile_meaning {r : Request} (hfields : r.fields.isEmpty = false) (hnodup : r.fields.all.Nodup)
    (hincrement : ∀ e ∈ r.increment.entries, e.2.isNumber = true)
    (happend : ∀ e ∈ r.append.entries, e.2.isSequence = true) :
    ∃ e s, compile r.fields r = .ok e ∧ (∀ t : Statement, t.IsReadingOf e.text ↔ t = s) ∧
      ∀ item : NameMap Attribute,
        ((s.run? e.names e.values item).isSome = true ↔ r.Fits item) ∧
          ∀ new, s.run? e.names e.values item = some new → r.Applied item new := by
  have hread := statement_isReadingOf hfields hnodup
  refine ⟨_, r.statement, compile_eq hfields, fun t => ⟨fun ht => ht.unique hread, ?_⟩, fun item => ?_⟩
  · rintro rfl
    exact hread
  · rw [Statement.run?_eq (statement_instructions? hnodup) item]
    refine ⟨?_, fun new hnew => Request.applied_of_runAll? hincrement happend hnew⟩
    rw [Instruction.isSome_runAll?_iff (Request.nodup_field_instructions hnodup),
      Request.fits_iff hincrement happend]

/-- A visit to a page: every action is used, and one name needs a numbered token. -/
def visit : Request where
  key := ⟨.text "page" (by decide), .int 7⟩
  assign := .ofList [("status", .text "seen")]
  remove := ["draft note"]
  increment := .ofList [("visits", .one)]
  append := .ofList [("visitors", .sequence [.text "ann"])]
  named := by decide

/-- The fields of a page with forty-one visits and no list of visitors. -/
def page : NameMap Attribute :=
  .ofList [("visits", .number "41"), ("draft note", .null)]

/-- On that page, the visit is the forty-second, and the note is gone. -/
theorem compile_meaning_visit :
    ∃ (e : Expression) (s : Statement) (new : NameMap Attribute),
      compile visit.fields visit = .ok e ∧ s.IsReadingOf e.text ∧
        s.run? e.names e.values page = some new ∧
          (new.get? "visits").bind Attribute.amount? = some 42 ∧ new.get? "draft note" = none := by
  obtain ⟨e, s, he, hs, hrun⟩ :=
    compile_meaning (r := visit) (by decide) (by decide) (by decide) (by decide)
  obtain ⟨hfits, happlied⟩ := hrun page
  have hbefore : amountAt? page "visits" = some 41 := by
    have htext : Decimal.ofText? "41" = some (.finite false 41 0) := by decide
    show (Decimal.ofText? "41").bind Decimal.value? = some 41
    simp [htext, Decimal.value?, Decimal.signed]
  have hone : Value.one.amount? = some 1 := by
    show Decimal.value? (.finite false 1 0) = some 1
    simp [Decimal.value?, Decimal.signed]
  have hvisit : visit.Fits page := by
    constructor
    · intro f hf
      obtain rfl : f = "visits" := List.mem_singleton.1 hf
      rw [hbefore]
      rfl
    · intro f hf
      obtain rfl : f = "visitors" := List.mem_singleton.1 hf
      rfl
  obtain ⟨new, hnew⟩ := Option.isSome_iff_exists.1 (hfits.2 hvisit)
  have hdone := happlied new hnew
  refine ⟨e, s, new, he, (hs s).2 rfl, hnew, ?_, hdone.removed _ (by decide)⟩
  obtain ⟨x, y, hx, hy, hsum⟩ := hdone.incremented "visits" .one rfl
  obtain rfl := Option.some.inj (hx.symm.trans hbefore)
  obtain rfl := Option.some.inj (hy.symm.trans hone)
  rw [hsum]
  norm_num

end Expression

end Amend
