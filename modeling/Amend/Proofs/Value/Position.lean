import Amend.Proofs.Entries
import Amend.Value
import Mathlib.Data.List.Nodup
import Mathlib.Data.List.Perm.Subperm

/-!
# Positions in values

What is in a value is found step by step: an item of a sequence under its number, a value of a mapping under its
name. The steps to a part are its position. The attribute of a value has its parts at the same positions
(`Value.part?_toAttribute`), each with a tag that says no more than the kind of the part; so attributes with the same
tags at every position are those of values of the same kinds everywhere (`Value.sameTags_toAttribute_iff`).

Two values correspond everywhere, in whatever way parts may correspond, if they have parts at the same positions and
the parts at each position correspond (`Value.Everywhere`). For sequences this is correspondence item by item, and for
mappings name by name, whatever the order of the entries.
-/

namespace Amend

/-- A step into a value: to an item of a sequence, or to what a mapping has under a name. -/
inductive Step where
  | item (index : Nat)
  | entry (name : String)

/-! ## Attributes -/

namespace Attribute

/-- What is one step into an attribute. -/
def step? : Attribute → Step → Option Attribute
  | .list items, .item i => items[i]?
  | .map entries, .entry name => OrderedMap.find name entries
  | _, _ => none

/-- What an attribute has at a position. -/
def part? : Attribute → List Step → Option Attribute
  | a, [] => some a
  | a, s :: rest => (a.step? s).bind fun b => part? b rest

/-- The tag of the type of an attribute. -/
def tag : Attribute → String
  | .text _ => "S"
  | .number _ => "N"
  | .boolean _ => "BOOL"
  | .null => "NULL"
  | .list _ => "L"
  | .map _ => "M"

/-- Two attributes have the same tags at every position. -/
def SameTags (a b : Attribute) : Prop :=
  ∀ position, (a.part? position).map tag = (b.part? position).map tag

end Attribute

namespace Value

/-! ## Parts -/

/-- What is one step into a value. -/
def step? : Value → Step → Option Value
  | .sequence items, .item i => items[i]?
  | .mapping entries, .entry name => OrderedMap.find name entries
  | _, _ => none

/-- What a value has at a position. -/
def part? : Value → List Step → Option Value
  | v, [] => some v
  | v, s :: rest => (v.step? s).bind fun x => part? x rest

/-- A step into the attribute of a value leads to the attribute of what is there. -/
theorem step?_toAttribute (v : Value) (s : Step) : v.toAttribute.step? s = (v.step? s).map toAttribute := by
  cases v with
  | sequence items =>
    rw [toAttribute, itemAttributes_eq_map]
    cases s with
    | item i => exact List.getElem?_map
    | entry name => rfl
  | mapping entries =>
    rw [toAttribute, entryAttributes_eq_map]
    cases s with
    | item i => rfl
    | entry name => exact OrderedMap.find_map toAttribute name entries
  | _ => rfl

/-- The attribute of a value has the attributes of the parts at their positions. -/
theorem part?_toAttribute (v : Value) (position : List Step) :
    v.toAttribute.part? position = (v.part? position).map toAttribute := by
  induction position generalizing v with
  | nil => rfl
  | cons s rest ih =>
    rw [Attribute.part?, part?, step?_toAttribute]
    cases v.step? s with
    | none => rfl
    | some x => exact ih x

/-! ## Correspondence -/

/-- Two values have parts at the same positions, and the parts at each position correspond. -/
def Everywhere (R : Value → Value → Prop) (v w : Value) : Prop :=
  ∀ position, Option.Rel R (v.part? position) (w.part? position)

section Everywhere

variable {R S : Value → Value → Prop} {v w : Value}

/-- What corresponds everywhere corresponds itself, and so does what is one step into it. -/
theorem everywhere_iff : Everywhere R v w ↔ R v w ∧ ∀ s, Option.Rel (Everywhere R) (v.step? s) (w.step? s) := by
  constructor
  · intro h
    refine ⟨Option.rel_some_some.1 (h []), fun s => ?_⟩
    have hstep (rest : List Step) :
        Option.Rel R ((v.step? s).bind fun x => part? x rest) ((w.step? s).bind fun y => part? y rest) :=
      h (s :: rest)
    cases hv : v.step? s with
    | none =>
      rw [hv] at hstep
      cases hw : w.step? s with
      | none => exact .none
      | some y =>
        rw [hw] at hstep
        exact absurd (hstep []) Option.not_rel_none_some
    | some x =>
      rw [hv] at hstep
      obtain ⟨y, hy, -⟩ := rel_some_left_iff.1 (hstep [])
      obtain ⟨w', hw, -⟩ := Option.bind_eq_some_iff.1 hy
      rw [hw] at hstep ⊢
      exact .some hstep
  · rintro ⟨hroot, hsteps⟩ position
    cases position with
    | nil => exact .some hroot
    | cons s rest =>
      rw [part?, part?]
      have hs := hsteps s
      cases hv : v.step? s with
      | none =>
        rw [hv, rel_none_left_iff] at hs
        rw [hs]
        exact .none
      | some x =>
        rw [hv, rel_some_left_iff] at hs
        obtain ⟨y, hw, hxy⟩ := hs
        rw [hw]
        exact hxy rest

/-- What corresponds everywhere in one way does so in another, if parts at one position do. -/
theorem Everywhere.imp (h : Everywhere R v w)
    (himp : ∀ position x y, v.part? position = some x → w.part? position = some y → R x y → S x y) :
    Everywhere S v w := by
  intro position
  have hparts := h position
  cases hv : v.part? position with
  | none =>
    rw [hv, rel_none_left_iff] at hparts
    exact rel_none_left_iff.2 hparts
  | some x =>
    rw [hv, rel_some_left_iff] at hparts
    obtain ⟨y, hw, hxy⟩ := hparts
    exact rel_some_left_iff.2 ⟨y, hw, himp position x y hv hw hxy⟩

/-- What has no parts corresponds everywhere if it corresponds itself. -/
theorem everywhere_of_step?_eq_none (h : R v w) (hv : ∀ s, v.step? s = none) (hw : ∀ s, w.step? s = none) :
    Everywhere R v w := by
  refine everywhere_iff.2 ⟨h, fun s => ?_⟩
  rw [hv, hw]
  exact .none

end Everywhere

section Containers

variable {R : Value → Value → Prop} {xs ys : List Value} {es fs : List (String × Value)}

/-- Sequences correspond everywhere if their items do, one by one. -/
theorem everywhere_sequence_iff (h : R (.sequence xs) (.sequence ys)) :
    Everywhere R (.sequence xs) (.sequence ys) ↔ List.Forall₂ (Everywhere R) xs ys := by
  rw [everywhere_iff, and_iff_right h, forall₂_iff_getElem?]
  constructor
  · exact fun hsteps i => hsteps (.item i)
  · intro hitems s
    cases s with
    | item i => exact hitems i
    | entry name => exact .none

/-- Mappings correspond everywhere if they have the same names, and what they have under each of them corresponds
everywhere. It is enough that one has as many entries as the other and finds all of its names there. -/
theorem everywhere_mapping_iff (h : R (.mapping es) (.mapping fs)) (hes : (es.map Prod.fst).Nodup)
    (hfs : (fs.map Prod.fst).Nodup) :
    Everywhere R (.mapping es) (.mapping fs) ↔
      es.length = fs.length ∧ ∀ e ∈ es, ∃ y, OrderedMap.find e.1 fs = some y ∧ Everywhere R e.2 y := by
  rw [everywhere_iff, and_iff_right h]
  constructor
  · intro hsteps
    have hnames (name : String) : name ∈ es.map Prod.fst ↔ name ∈ fs.map Prod.fst := by
      rw [← not_iff_not, ← OrderedMap.find_eq_none_iff, ← OrderedMap.find_eq_none_iff]
      have hname : Option.Rel (Everywhere R) (OrderedMap.find name es) (OrderedMap.find name fs) :=
        hsteps (.entry name)
      generalize OrderedMap.find name es = x at hname ⊢
      generalize OrderedMap.find name fs = y at hname ⊢
      cases hname with
      | none => exact iff_of_true rfl rfl
      | some _ => exact iff_of_false nofun nofun
    refine ⟨?_, fun e he => ?_⟩
    · simpa using ((List.perm_ext_iff_of_nodup hes hfs).2 hnames).length_eq
    · have hentry : Option.Rel (Everywhere R) (OrderedMap.find e.1 es) (OrderedMap.find e.1 fs) :=
        hsteps (.entry e.1)
      rwa [(OrderedMap.find_eq_some_iff hes).2 he, rel_some_left_iff] at hentry
  · rintro ⟨hlength, hentries⟩ s
    cases s with
    | item i => exact .none
    | entry name =>
      show Option.Rel _ (OrderedMap.find name es) (OrderedMap.find name fs)
      cases hx : OrderedMap.find name es with
      | some x =>
        obtain ⟨y, hy, hxy⟩ := hentries _ ((OrderedMap.find_eq_some_iff hes).1 hx)
        rw [hy]
        exact .some hxy
      | none =>
        -- no name of the second mapping is new, as it has no more names than the first
        have hsub : es.map Prod.fst ⊆ fs.map Prod.fst := by
          rintro name hname
          obtain ⟨e, he, rfl⟩ := List.mem_map.1 hname
          obtain ⟨y, hy, -⟩ := hentries e he
          exact List.mem_map.2 ⟨_, (OrderedMap.find_eq_some_iff hfs).1 hy, rfl⟩
        have hperm := (hes.subperm hsub).perm_of_length_le (by simp [hlength])
        rw [OrderedMap.find_eq_none_iff, hperm.mem_iff, ← OrderedMap.find_eq_none_iff] at hx
        rw [hx]
        exact .none

end Containers

/-! ## What holds throughout -/

/-- Something holds of a value and of everything in it. -/
def Throughout (P : Value → Prop) (v : Value) : Prop :=
  ∀ position x, v.part? position = some x → P x

/-- No mapping in a value has a name twice. -/
def NamesDistinct (v : Value) : Prop :=
  v.Throughout fun x => ∀ entries, x = .mapping entries → (entries.map Prod.fst).Nodup

section Throughout

variable {P : Value → Prop} {v x : Value} {s : Step} {xs : List Value} {es : List (String × Value)}

/-- What holds throughout a value holds of it. -/
theorem Throughout.self (h : v.Throughout P) : P v :=
  h [] v rfl

/-- What holds throughout a value holds throughout what is one step into it. -/
theorem Throughout.step (h : v.Throughout P) (hs : v.step? s = some x) : x.Throughout P := by
  intro position y hpart
  refine h (s :: position) y ?_
  rw [part?, hs]
  exact hpart

/-- It is enough that something holds of a value, and throughout what is one step into it. -/
theorem throughout_of_steps (h : P v) (hsteps : ∀ s x, v.step? s = some x → x.Throughout P) : v.Throughout P := by
  intro position x hpart
  cases position with
  | nil =>
    obtain rfl := Option.some.inj hpart
    exact h
  | cons s rest =>
    obtain ⟨y, hs, hpart⟩ := Option.bind_eq_some_iff.1 hpart
    exact hsteps s y hs rest x hpart

/-- What holds of a value without parts holds throughout. -/
theorem throughout_of_step?_eq_none (h : P v) (hv : ∀ s, v.step? s = none) : v.Throughout P :=
  throughout_of_steps h fun s _ hs => nomatch (hv s).symm.trans hs

/-- What holds of a sequence and throughout its items holds throughout. -/
theorem throughout_sequence (h : P (.sequence xs)) (hitems : ∀ x ∈ xs, x.Throughout P) :
    (Value.sequence xs).Throughout P := by
  refine throughout_of_steps h fun s x hs => ?_
  cases s with
  | item i => exact hitems x (List.mem_of_getElem? hs)
  | entry name => cases hs

/-- What holds of a mapping and throughout its values holds throughout. -/
theorem throughout_mapping (h : P (.mapping es)) (hentries : ∀ e ∈ es, e.2.Throughout P) :
    (Value.mapping es).Throughout P := by
  refine throughout_of_steps h fun s x hs => ?_
  cases s with
  | item i => cases hs
  | entry name => exact hentries (name, x) (OrderedMap.mem_of_find hs)

/-- What holds throughout a sequence holds throughout its items. -/
theorem Throughout.item (h : (Value.sequence xs).Throughout P) : ∀ x ∈ xs, x.Throughout P := by
  intro x hx
  obtain ⟨i, hi⟩ := List.mem_iff_getElem?.1 hx
  exact h.step (s := .item i) hi

/-- The names of a mapping are distinct. -/
theorem NamesDistinct.nodup (h : (Value.mapping es).NamesDistinct) : (es.map Prod.fst).Nodup :=
  h.self es rfl

/-- In a mapping with distinct names, every value is found. -/
theorem NamesDistinct.entry (h : (Value.mapping es).NamesDistinct) : ∀ e ∈ es, e.2.NamesDistinct :=
  fun e he => h.step (s := .entry e.1) ((OrderedMap.find_eq_some_iff h.nodup).2 he)

end Throughout

/-! ## Tags -/

/-- The tags of attributes tell the kinds of values apart, and nothing else. -/
theorem tag_toAttribute_eq_iff {v w : Value} : v.toAttribute.tag = w.toAttribute.tag ↔ v.kind = w.kind := by
  cases v <;> cases w <;> simp [toAttribute, Attribute.tag, kind]

/-- Attributes have the same tags at every position if they are those of values of the same kinds everywhere. -/
theorem sameTags_toAttribute_iff {v w : Value} :
    v.toAttribute.SameTags w.toAttribute ↔ Everywhere (fun x y => x.kind = y.kind) v w := by
  refine forall_congr' fun position => ?_
  rw [part?_toAttribute, part?_toAttribute]
  cases v.part? position with
  | none =>
    cases w.part? position with
    | none => exact iff_of_true rfl .none
    | some y => exact iff_of_false nofun nofun
  | some x =>
    cases w.part? position with
    | none => exact iff_of_false nofun nofun
    | some y =>
      rw [Option.rel_some_some, ← tag_toAttribute_eq_iff]
      exact Option.some_inj

end Value

end Amend
