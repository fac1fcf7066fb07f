import Mathlib.Data.List.Perm.Basic
import Mathlib.Data.List.Sort
import Amend.Proofs.Policy.Effective

/-!
# Permitting many fields

A rule may be made to permit some more fields, one after another. What comes out permits those fields and what the
rule permitted, and nothing else, whichever of its lists the rule has (`FieldRule.permits_foldl_allowing_iff`).

The order of the fields does not matter, nor how often one of them is given. This needs no look at the lists of the
rule: permitting a field commutes with permitting another, and permitting a field twice is permitting it once. So
fields that have been permitted are absorbed, and two lists with the same members both come to what their
concatenation comes to (`FieldRule.foldl_allowing_congr`).
-/

namespace Amend

/-- Two sets with the same members are equal. -/
theorem FieldSet.ext_mem {s t : FieldSet} (h : ∀ name, name ∈ s ↔ name ∈ t) : s = t :=
  FieldSet.ext (s.sorted.eq_of_mem_iff t.sorted h)

/-- The order of two insertions does not matter. -/
theorem FieldSet.insert_comm (s : FieldSet) (f g : String) : (s.insert f).insert g = (s.insert g).insert f := by
  refine ext_mem fun name => ?_
  simp only [mem_insert]
  exact or_left_comm

/-- The order of two removals does not matter. -/
theorem FieldSet.erase_comm (s : FieldSet) (f g : String) : (s.erase f).erase g = (s.erase g).erase f := by
  refine ext_mem fun name => ?_
  simp only [mem_erase]
  exact and_right_comm

namespace FieldRule

variable {fields others : List String}

/-! ## Two fields -/

/-- The order in which two fields are permitted does not matter. -/
theorem allowing_comm (r : FieldRule) (f g : String) : (r.allowing f).allowing g = (r.allowing g).allowing f := by
  -- a rule that granted nothing has a whitelist from the first field on, whichever that is
  obtain ⟨allowAll, whitelist, blacklist, mandatory⟩ := r
  cases allowAll <;> cases whitelist <;> cases blacklist <;>
    simp [allowing, grantsAnything, FieldSet.insert_comm _ f g, FieldSet.erase_comm _ f g]

instance : RightCommutative allowing := ⟨allowing_comm⟩

/-! ## Lists of fields -/

/-- A rule that permits some more fields permits these fields and what it permitted, and nothing else. -/
theorem permits_foldl_allowing_iff (r : FieldRule) (f : String) :
    (fields.foldl allowing r).Permits f ↔ r.Permits f ∨ f ∈ fields := by
  induction fields generalizing r with
  | nil => simp
  | cons field rest ih =>
    rw [List.foldl_cons, ih, permits_allowing_iff, List.mem_cons, or_right_comm, or_comm]

/-- Permitting fields does not permit all of them, and does not change what must be touched. -/
theorem foldl_allowing_keeps (r : FieldRule) :
    (fields.foldl allowing r).allowAll = r.allowAll ∧ (fields.foldl allowing r).mandatory = r.mandatory := by
  induction fields generalizing r with
  | nil => exact ⟨rfl, rfl⟩
  | cons field rest ih => exact ih (r.allowing field)

/-- A field among those that have been permitted is absorbed. -/
theorem allowing_foldl_allowing {f : String} (hf : f ∈ fields) (r : FieldRule) :
    (fields.foldl allowing r).allowing f = fields.foldl allowing r := by
  have hfront : fields.Perm (f :: fields.erase f) := List.perm_cons_erase hf
  have htwice : (fields ++ [f]).Perm (f :: f :: fields.erase f) :=
    (List.perm_append_singleton f fields).trans (hfront.cons f)
  calc (fields.foldl allowing r).allowing f
      = (fields ++ [f]).foldl allowing r := by rw [List.foldl_append]; rfl
    _ = (f :: f :: fields.erase f).foldl allowing r := htwice.foldl_eq r
    _ = (f :: fields.erase f).foldl allowing r := by
        rw [List.foldl_cons, List.foldl_cons, List.foldl_cons, allowing_allowing]
    _ = fields.foldl allowing r := hfront.symm.foldl_eq r

/-- Fields among those that have been permitted are absorbed. -/
theorem foldl_allowing_of_subset (h : others ⊆ fields) (r : FieldRule) :
    others.foldl allowing (fields.foldl allowing r) = fields.foldl allowing r := by
  induction others with
  | nil => rfl
  | cons f rest ih =>
    rw [List.foldl_cons, allowing_foldl_allowing (h List.mem_cons_self)]
    exact ih fun g hg => h (List.mem_cons_of_mem f hg)

/-- What permitting fields comes to depends on the set of these fields alone. -/
theorem foldl_allowing_congr (h : ∀ f, f ∈ others ↔ f ∈ fields) (r : FieldRule) :
    others.foldl allowing r = fields.foldl allowing r := by
  calc others.foldl allowing r
      = fields.foldl allowing (others.foldl allowing r) :=
        (foldl_allowing_of_subset (fun f hf => (h f).2 hf) r).symm
    _ = (others ++ fields).foldl allowing r := List.foldl_append.symm
    _ = (fields ++ others).foldl allowing r :=
        List.perm_append_comm.foldl_eq r
    _ = others.foldl allowing (fields.foldl allowing r) := List.foldl_append
    _ = fields.foldl allowing r := foldl_allowing_of_subset (fun f hf => (h f).1 hf) r

/-- Permitting fields, one after another, grants exactly these fields: the rule that comes out permits them and what
was permitted before, allows and demands everything as before, and is the same for any list of the same fields. -/
theorem foldl_allowing_grants (r : FieldRule) (fields : List String) :
    (∀ f, (fields.foldl allowing r).Permits f ↔ r.Permits f ∨ f ∈ fields) ∧
      (fields.foldl allowing r).allowAll = r.allowAll ∧
      (fields.foldl allowing r).mandatory = r.mandatory ∧
      ∀ others : List String, (∀ f, f ∈ others ↔ f ∈ fields) → others.foldl allowing r = fields.foldl allowing r :=
  ⟨permits_foldl_allowing_iff r, (foldl_allowing_keeps r).1, (foldl_allowing_keeps r).2,
    fun _ h => foldl_allowing_congr h r⟩

/-- A rule that only lists what may not be touched. -/
def sparing : FieldRule := ⟨false, none, some (.ofList ["draft"]), some (.ofList ["status"])⟩

/-- Permitting the only field on a blacklist leaves the blacklist there, without a member, so that everything is
permitted; in which order the fields come and how often does not matter. -/
theorem foldl_allowing_grants_sparing :
    (∀ f, (["draft", "note"].foldl allowing sparing).Permits f ↔ sparing.Permits f ∨ f ∈ ["draft", "note"]) ∧
      ["draft", "note"].foldl allowing sparing = ⟨false, none, some .empty, some (.ofList ["status"])⟩ ∧
      ["note", "draft", "note"].foldl allowing sparing = ["draft", "note"].foldl allowing sparing := by
  obtain ⟨hpermits, -, -, hset⟩ := foldl_allowing_grants sparing ["draft", "note"]
  refine ⟨hpermits, by decide, hset ["note", "draft", "note"] fun f => ?_⟩
  simp only [List.mem_cons, List.not_mem_nil, or_false]
  grind

end FieldRule

end Amend
