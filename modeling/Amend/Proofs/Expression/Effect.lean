import Amend.Proofs.Decimal.Sum
import Amend.Proofs.Expression.Instruction
import Mathlib.Data.List.Forall2

/-!
# What update expressions do

The store runs a statement on the fields of a record. Every placeholder has to stand for something, every
right-hand side reads the record as it was before, no field may be written twice, and one operand that
cannot be computed refuses the whole update.

Instructions can be run too, and without any placeholder. A statement that amounts to some instructions
does exactly what these do (`Statement.run?_eq`), so what an expression does is settled by what it is read
back as.
-/

namespace Amend

namespace Attribute

/-- The sum of two numbers. -/
def sum? : Attribute → Attribute → Option Attribute
  | .number s, .number t => do
    let z ← Decimal.sum? (← Decimal.ofText? s) (← Decimal.ofText? t)
    return .number z.text
  | _, _ => none

/-- Two lists, one behind the other. -/
def joined? : Attribute → Attribute → Option Attribute
  | .list items, .list others => some (.list (items ++ others))
  | _, _ => none

end Attribute

/-- The fields of a record after some writes, unless two of them are to one field. -/
def writeAll? (item : NameMap Attribute) (ws : List (String × Option Attribute)) :
    Option (NameMap Attribute) :=
  if (ws.map Prod.fst).Nodup then some (ws.foldl OrderedMap.write item) else none

namespace Expression

variable (names : NameMap String) (values : NameMap Attribute)

/-! ## Running a statement -/

/-- Every placeholder in an operand stands for something. -/
def Operand.isDefined : Operand → Bool
  | .name t => (fieldOf? names t).isSome
  | .value t => (valueOf? values t).isSome
  | .ifNotExists t o => (fieldOf? names t).isSome && o.isDefined
  | .listAppend a b => a.isDefined && b.isDefined

/-- What an operand comes to. -/
def Operand.eval? (item : NameMap Attribute) : Operand → Option Attribute
  | .name t => (fieldOf? names t).bind item.get?
  | .value t => valueOf? values t
  | .ifNotExists t o => (fieldOf? names t).bind fun field => (item.get? field).or (o.eval? item)
  | .listAppend a b => do (← a.eval? item).joined? (← b.eval? item)

/-- Every placeholder on a right-hand side stands for something. -/
def Source.isDefined : Source → Bool
  | .operand o => o.isDefined names values
  | .sum a b => a.isDefined names values && b.isDefined names values

/-- What a right-hand side comes to. -/
def Source.eval? (item : NameMap Attribute) : Source → Option Attribute
  | .operand o => o.eval? names values item
  | .sum a b => do (← a.eval? names values item).sum? (← b.eval? names values item)

/-- What an assignment writes. -/
def Assignment.write? (item : NameMap Attribute) (a : Assignment) : Option (String × Option Attribute) := do
  return (← fieldOf? names a.target, some (← a.source.eval? names values item))

/-- What a removal writes. -/
def removalWrite? (token : String) : Option (String × Option Attribute) :=
  (fieldOf? names token).map fun field => (field, none)

/-- Every placeholder in a statement stands for something. -/
def Statement.isDefined (s : Statement) : Bool :=
  (s.assignments.all fun a => (fieldOf? names a.target).isSome && a.source.isDefined names values) &&
    s.removals.all fun t => (fieldOf? names t).isSome

/-- The fields of a record after a statement is run on them. -/
def Statement.run? (s : Statement) (item : NameMap Attribute) : Option (NameMap Attribute) :=
  if s.isDefined names values then do
    let sets ← s.assignments.mapM (Assignment.write? names values item)
    let removals ← s.removals.mapM (removalWrite? names)
    writeAll? item (sets ++ removals)
  else none

end Expression

/-! ## Running instructions -/

namespace Instruction

/-- What an instruction writes. A missing number counts as zero, a missing list as empty. -/
def write? (item : NameMap Attribute) : Instruction → Option (String × Option Attribute)
  | .assign f a => some (f, some a)
  | .remove f => some (f, none)
  | .increment f a => (((item.get? f).getD .zero).sum? a).map fun b => (f, some b)
  | .append f a => (((item.get? f).getD .emptyList).joined? a).map fun b => (f, some b)

/-- The fields of a record after some instructions are run on them. -/
def runAll? (is : List Instruction) (item : NameMap Attribute) : Option (NameMap Attribute) := do
  writeAll? item (← is.mapM (write? item))

/-- An instruction writes to its field. -/
theorem fst_of_write? {item : NameMap Attribute} {i : Instruction} {w : String × Option Attribute}
    (h : i.write? item = some w) : w.1 = i.field := by
  cases i with
  | assign f a | remove f =>
    cases h
    rfl
  | increment f a | append f a =>
    obtain ⟨b, -, rfl⟩ := Option.map_eq_some_iff.1 h
    rfl

end Instruction

/-! ## A pass over a list -/

/-- A pass over a list succeeds exactly if it succeeds everywhere. -/
theorem mapM_eq_some_iff {α β : Type} {f : α → Option β} {xs : List α} {ys : List β} :
    xs.mapM f = some ys ↔ List.Forall₂ (fun x y => f x = some y) xs ys := by
  induction xs generalizing ys with
  | nil => cases ys <;> simp
  | cons x rest ih =>
    rw [List.mapM_cons]
    cases hx : f x with
    | none => cases ys <;> simp [hx]
    | some y =>
      cases hrest : rest.mapM f with
      | none => cases ys <;> simp [← ih, hrest]
      | some zs => cases ys <;> simp [← ih, hrest, hx]

/-- Passes over two lists that correspond come to the same. -/
theorem mapM_congr_forall₂ {α β γ : Type} {R : α → β → Prop} {f : α → Option γ} {g : β → Option γ}
    {xs : List α} {ys : List β} (h : List.Forall₂ R xs ys) (hR : ∀ x y, R x y → f x = g y) :
    xs.mapM f = ys.mapM g := by
  induction h with
  | nil => rfl
  | cons hxy _ ih => rw [List.mapM_cons, List.mapM_cons, hR _ _ hxy, ih]

namespace Instruction

variable {is : List Instruction} {item new : NameMap Attribute}

/-! ## What running instructions comes to -/

/-- Instructions write to their fields, one after another. -/
theorem map_fst_of_forall₂ {ws : List (String × Option Attribute)}
    (h : List.Forall₂ (fun i w => write? item i = some w) is ws) : ws.map Prod.fst = is.map field := by
  induction h with
  | nil => rfl
  | cons hw _ ih => rw [List.map_cons, List.map_cons, fst_of_write? hw, ih]

/-- Instructions on distinct fields can be run exactly if each of them can be. -/
theorem isSome_runAll?_iff (hnodup : (is.map field).Nodup) :
    (runAll? is item).isSome = true ↔ ∀ i ∈ is, (i.write? item).isSome = true := by
  constructor
  · intro h i hi
    obtain ⟨new, hnew⟩ := Option.isSome_iff_exists.1 h
    obtain ⟨ws, hws, -⟩ := Option.bind_eq_some_iff.1 hnew
    obtain ⟨w, -, hw⟩ := exists_of_mem_forall₂ (mapM_eq_some_iff.1 hws) hi
    exact Option.isSome_iff_exists.2 ⟨w, hw⟩
  · intro h
    obtain ⟨ws, hws⟩ : ∃ ws, is.mapM (write? item) = some ws := by
      clear hnodup
      induction is with
      | nil => exact ⟨[], rfl⟩
      | cons i rest ih =>
        obtain ⟨w, hw⟩ := Option.isSome_iff_exists.1 (h i (by simp))
        obtain ⟨ws, hws⟩ := ih fun j hj => h j (by simp [hj])
        exact ⟨w :: ws, by rw [List.mapM_cons, hw, hws]; rfl⟩
    have hkeys := map_fst_of_forall₂ (mapM_eq_some_iff.1 hws)
    rw [runAll?, hws]
    show (writeAll? item ws).isSome = true
    rw [writeAll?, if_pos (hkeys ▸ hnodup)]
    rfl

/-- After instructions are run, each field holds what is written to it. -/
theorem get?_of_runAll? (h : runAll? is item = some new) {i : Instruction} (hi : i ∈ is) :
    ∃ w, i.write? item = some w ∧ new.get? i.field = w.2 := by
  obtain ⟨ws, hws, hnew⟩ := Option.bind_eq_some_iff.1 h
  obtain ⟨w, hmem, hw⟩ := exists_of_mem_forall₂ (mapM_eq_some_iff.1 hws) hi
  rw [writeAll?] at hnew
  split at hnew
  · rename_i hnodup
    obtain rfl := Option.some.inj hnew
    refine ⟨w, hw, ?_⟩
    rw [← fst_of_write? hw]
    exact OrderedMap.get?_foldl_write_of_mem hnodup hmem
  · cases hnew

/-- After instructions are run, the fields of none of them are as before. -/
theorem get?_of_runAll?_of_not_mem (h : runAll? is item = some new) {f : String}
    (hf : f ∉ is.map field) : new.get? f = item.get? f := by
  obtain ⟨ws, hws, hnew⟩ := Option.bind_eq_some_iff.1 h
  rw [← map_fst_of_forall₂ (mapM_eq_some_iff.1 hws)] at hf
  rw [writeAll?] at hnew
  split at hnew
  · obtain rfl := Option.some.inj hnew
    exact OrderedMap.get?_foldl_write_of_not_mem hf
  · cases hnew

end Instruction

namespace Expression

variable {names : NameMap String} {values : NameMap Attribute}

/-! ## A statement does what its instructions do -/

/-- An operand that starts from a value is the field, or that value where the field is missing. -/
theorem eval?_of_startsFrom {field : String} {isStart : Attribute → Bool} {start : Attribute}
    (hstart : ∀ a, isStart a = true → a = start) {o : Operand}
    (h : startsFrom names values field isStart o = true) :
    o.isDefined names values = true ∧
      ∀ item : NameMap Attribute, o.eval? names values item = some ((item.get? field).getD start) := by
  unfold startsFrom at h
  split at h
  · rename_i t u
    rw [Bool.and_eq_true, beq_iff_eq] at h
    obtain ⟨hfield, hvalue⟩ := h
    cases hu : valueOf? values u with
    | none =>
      rw [hu] at hvalue
      cases hvalue
    | some a =>
      rw [hu] at hvalue
      obtain rfl := hstart a hvalue
      refine ⟨by simp [Operand.isDefined, hfield, hu], fun item => ?_⟩
      simp only [Operand.eval?, hfield, hu, Option.bind_some]
      cases item.get? field <;> rfl
  · cases h

/-- What an assignment amounts to is what it does, and all of its placeholders stand for something. -/
theorem Assignment.write?_eq {a : Assignment} {i : Instruction}
    (h : a.instruction? names values = some i) :
    ((fieldOf? names a.target).isSome && a.source.isDefined names values) = true ∧
      ∀ item : NameMap Attribute, a.write? names values item = i.write? item := by
  obtain ⟨field, hfield, hsource⟩ := Option.bind_eq_some_iff.1 h
  have hwrite : ∀ item : NameMap Attribute, a.write? names values item =
      (a.source.eval? names values item).map fun b => (field, some b) := by
    intro item
    rw [Assignment.write?, hfield]
    cases a.source.eval? names values item <;> rfl
  simp only [hwrite, hfield, Option.isSome_some, Bool.true_and]
  unfold Source.instruction? at hsource
  split at hsource
  · -- a value stands on the right
    rename_i t hs
    obtain ⟨v, hv, rfl⟩ := Option.map_eq_some_iff.1 hsource
    rw [hs]
    refine ⟨by simp [Source.isDefined, Operand.isDefined, hv], fun item => ?_⟩
    simp [Source.eval?, Operand.eval?, hv, Instruction.write?]
  · -- a list is appended to what the field starts from
    rename_i first t hs
    split at hsource
    · rename_i hfirst
      obtain ⟨v, hv, rfl⟩ := Option.map_eq_some_iff.1 hsource
      obtain ⟨hdefined, heval⟩ :=
        eval?_of_startsFrom (fun _ => Attribute.eq_emptyList_of_isEmptyList) hfirst
      rw [hs]
      refine ⟨by simp [Source.isDefined, Operand.isDefined, hdefined, hv], fun item => ?_⟩
      simp [Source.eval?, Operand.eval?, heval, hv, Instruction.write?]
    · cases hsource
  · -- a number is added to what the field starts from
    rename_i first t hs
    split at hsource
    · rename_i hfirst
      obtain ⟨v, hv, rfl⟩ := Option.map_eq_some_iff.1 hsource
      obtain ⟨hdefined, heval⟩ := eval?_of_startsFrom (fun _ => Attribute.eq_zero_of_isZero) hfirst
      rw [hs]
      refine ⟨by simp [Source.isDefined, Operand.isDefined, hdefined, hv], fun item => ?_⟩
      simp [Source.eval?, Operand.eval?, heval, hv, Instruction.write?]
    · cases hsource
  · cases hsource

/-- The same for a removal. -/
theorem removalWrite?_eq {t : String} {i : Instruction} (h : removalInstruction? names t = some i) :
    (fieldOf? names t).isSome = true ∧
      ∀ item : NameMap Attribute, removalWrite? names t = i.write? item := by
  obtain ⟨field, hfield, rfl⟩ := Option.map_eq_some_iff.1 h
  rw [removalWrite?, hfield]
  exact ⟨rfl, fun _ => rfl⟩

/-- A statement does what its instructions do. -/
theorem Statement.run?_eq {s : Statement} {is : List Instruction}
    (h : s.instructions? names values = some is) (item : NameMap Attribute) :
    s.run? names values item = Instruction.runAll? is item := by
  obtain ⟨sets, hsets, removals, hremovals, rfl⟩ : ∃ sets,
      s.assignments.mapM (Assignment.instruction? names values) = some sets ∧ ∃ removals,
        s.removals.mapM (removalInstruction? names) = some removals ∧ sets ++ removals = is := by
    simpa [Statement.instructions?, Option.bind_eq_some_iff] using h
  have hs := mapM_eq_some_iff.1 hsets
  have hr := mapM_eq_some_iff.1 hremovals
  have hdefined : s.isDefined names values = true := by
    rw [Statement.isDefined, Bool.and_eq_true, List.all_eq_true, List.all_eq_true]
    refine ⟨fun a ha => ?_, fun t ht => ?_⟩
    · obtain ⟨i, -, hi⟩ := exists_of_mem_forall₂ hs ha
      exact (Assignment.write?_eq hi).1
    · obtain ⟨i, -, hi⟩ := exists_of_mem_forall₂ hr ht
      exact (removalWrite?_eq hi).1
  rw [Statement.run?, if_pos hdefined, Instruction.runAll?, List.mapM_append,
    mapM_congr_forall₂ hs fun a i hi => (Assignment.write?_eq hi).2 item,
    mapM_congr_forall₂ hr fun t i hi => (removalWrite?_eq hi).2 item]
  cases sets.mapM (Instruction.write? item) <;> cases removals.mapM (Instruction.write? item) <;> rfl

end Expression

end Amend
