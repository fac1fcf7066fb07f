/-!
# Sets of field names

A set of names is kept as the list of its members in increasing order of code points, so that two sets
with the same members are equal.
-/

namespace Amend

/-- A finite set of names. -/
structure FieldSet where
  names : List String
  sorted : names.Pairwise (· < ·) := by simp

namespace FieldSet

/-- Two sets with the same list of members are equal. -/
@[ext] theorem ext {s t : FieldSet} (h : s.names = t.names) : s = t := by
  cases s
  cases t
  cases h
  rfl

instance : DecidableEq FieldSet := fun s t =>
  decidable_of_iff (s.names = t.names) ⟨ext, fun h => h ▸ rfl⟩

instance : Membership String FieldSet := ⟨fun s name => name ∈ s.names⟩

instance (name : String) (s : FieldSet) : Decidable (name ∈ s) :=
  inferInstanceAs (Decidable (name ∈ s.names))

/-- The set without members. -/
def empty : FieldSet := ⟨[], by simp⟩

instance : Inhabited FieldSet := ⟨empty⟩

/-! ## Insertion and removal -/

/-- A name put into its place in an increasing list. -/
def place (name : String) : List String → List String
  | [] => [name]
  | n :: rest => if name < n then name :: n :: rest else if name = n then n :: rest else n :: place name rest

/-- The members after a name is put into its place. -/
theorem mem_place {name other : String} {ns : List String} :
    other ∈ place name ns ↔ other = name ∨ other ∈ ns := by
  induction ns with
  | nil => simp [place]
  | cons n rest ih =>
    simp only [place]
    split
    · simp
    · split
      · rename_i h
        simp [h]
      · simp only [List.mem_cons, ih]
        exact or_left_comm

/-- An increasing list stays increasing. -/
theorem pairwise_place {name : String} {ns : List String} (h : ns.Pairwise (· < ·)) :
    (place name ns).Pairwise (· < ·) := by
  induction ns with
  | nil => simp [place]
  | cons n rest ih =>
    rw [List.pairwise_cons] at h
    simp only [place]
    split
    · rename_i hlt
      refine List.pairwise_cons.2 ⟨?_, List.pairwise_cons.2 h⟩
      intro m hm
      rcases List.mem_cons.1 hm with rfl | hm
      · exact hlt
      · exact String.lt_trans hlt (h.1 m hm)
    · split
      · exact List.pairwise_cons.2 h
      · rename_i hlt hne
        refine List.pairwise_cons.2 ⟨?_, ih h.2⟩
        intro m hm
        rcases mem_place.1 hm with rfl | hm
        · rcases Std.lt_trichotomy m n with h' | h' | h'
          · exact absurd h' hlt
          · exact absurd h' hne
          · exact h'
        · exact h.1 m hm

/-- The set with one more member. -/
def insert (s : FieldSet) (name : String) : FieldSet :=
  ⟨place name s.names, pairwise_place s.sorted⟩

/-- The set without a member. -/
def erase (s : FieldSet) (name : String) : FieldSet :=
  ⟨s.names.filter fun n => n ≠ name, s.sorted.filter _⟩

/-- The set of the members of a list. -/
def ofList (ns : List String) : FieldSet :=
  ns.foldl insert empty

@[simp] theorem mem_insert {s : FieldSet} {name other : String} :
    other ∈ s.insert name ↔ other = name ∨ other ∈ s :=
  mem_place

@[simp] theorem mem_erase {s : FieldSet} {name other : String} :
    other ∈ s.erase name ↔ other ∈ s ∧ other ≠ name := by
  show other ∈ s.names.filter _ ↔ other ∈ s.names ∧ other ≠ name
  simp

@[simp] theorem not_mem_empty (name : String) : name ∉ empty := by
  show name ∉ []
  simp

/-! ## Where nothing changes -/

/-- A name that is in an increasing list has its place there already. -/
theorem place_of_mem {name : String} {ns : List String} (hsorted : ns.Pairwise (· < ·)) (h : name ∈ ns) :
    place name ns = ns := by
  induction ns with
  | nil => cases h
  | cons n rest ih =>
    rw [List.pairwise_cons] at hsorted
    rw [place]
    rcases List.mem_cons.1 h with rfl | hmem
    · rw [if_neg (String.lt_irrefl name), if_pos rfl]
    · have hlt : n < name := hsorted.1 name hmem
      rw [if_neg (String.lt_asymm hlt), if_neg (String.ne_of_lt hlt).symm, ih hsorted.2 hmem]

/-- Inserting a member changes nothing. -/
theorem insert_of_mem {s : FieldSet} {name : String} (h : name ∈ s) : s.insert name = s :=
  ext (place_of_mem s.sorted h)

/-- Removing what is no member changes nothing. -/
theorem erase_of_not_mem {s : FieldSet} {name : String} (h : name ∉ s) : s.erase name = s := by
  refine ext (List.filter_eq_self.2 fun n hn => decide_eq_true ?_)
  rintro rfl
  exact h hn

end FieldSet

end Amend
