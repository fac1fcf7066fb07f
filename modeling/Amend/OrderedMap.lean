/-!
# Maps in order of insertion

The fields of a request, the placeholders of an expression, the parts of a key and the rules of a
policy are finite maps whose order shows. A key that is inserted again keeps its place and takes the new
value. No key occurs twice, which is part of the type.
-/

namespace Amend

/-- A finite map, in order of insertion. -/
structure OrderedMap (κ α : Type) where
  entries : List (κ × α)
  nodup : (entries.map Prod.fst).Nodup := by simp

/-- A finite map from names, in order of insertion. -/
abbrev NameMap (α : Type) := OrderedMap String α

namespace OrderedMap

variable {κ α : Type}

/-- Two maps with the same entries in the same order are equal. -/
@[ext] theorem ext {m n : OrderedMap κ α} (h : m.entries = n.entries) : m = n := by
  cases m
  cases n
  cases h
  rfl

instance [DecidableEq κ] [DecidableEq α] : DecidableEq (OrderedMap κ α) := fun m n =>
  decidable_of_iff (m.entries = n.entries) ⟨ext, fun h => h ▸ rfl⟩

/-- The map without entries. -/
def empty : OrderedMap κ α := ⟨[], by simp⟩

instance : Inhabited (OrderedMap κ α) := ⟨empty⟩

/-- The keys, in order. -/
def keys (m : OrderedMap κ α) : List κ :=
  m.entries.map Prod.fst

/-- True of the map without entries. -/
def isEmpty (m : OrderedMap κ α) : Bool :=
  m.entries.isEmpty

@[simp] theorem not_mem_keys_empty (key : κ) : key ∉ (empty : OrderedMap κ α).keys := by
  simp [empty, keys]

variable [DecidableEq κ]

/-- The value of the first entry with a key. -/
def find (key : κ) : List (κ × α) → Option α
  | [] => none
  | e :: rest => if e.1 = key then some e.2 else find key rest

/-- The value under a key. -/
def get? (m : OrderedMap κ α) (key : κ) : Option α :=
  find key m.entries

/-! ## Insertion -/

/-- Entries with one of them replaced in its place, or added at the end. -/
def put (key : κ) (x : α) : List (κ × α) → List (κ × α)
  | [] => [(key, x)]
  | e :: rest => if e.1 = key then (key, x) :: rest else e :: put key x rest

/-- Putting an entry adds its key at the end, unless it is there already. -/
theorem map_fst_put (key : κ) (x : α) (es : List (κ × α)) :
    (put key x es).map Prod.fst =
      if key ∈ es.map Prod.fst then es.map Prod.fst else es.map Prod.fst ++ [key] := by
  induction es with
  | nil => simp [put]
  | cons e rest ih =>
    by_cases h : e.1 = key
    · simp [put, h]
    · have h' : key ≠ e.1 := fun c => h c.symm
      simp only [put, h, if_false, List.map_cons, ih, List.mem_cons, h', false_or]
      split <;> simp

/-- Putting an entry keeps keys distinct. -/
theorem nodup_put {key : κ} {x : α} {es : List (κ × α)}
    (h : (es.map Prod.fst).Nodup) : ((put key x es).map Prod.fst).Nodup := by
  rw [map_fst_put]
  split
  · exact h
  · rename_i hmem
    refine List.nodup_append.2 ⟨h, by simp, ?_⟩
    intro a ha b hb
    obtain rfl : b = key := by simpa using hb
    exact fun c => hmem (c ▸ ha)

/-- Inserts a value under a key. -/
def insert (m : OrderedMap κ α) (key : κ) (x : α) : OrderedMap κ α :=
  ⟨put key x m.entries, nodup_put m.nodup⟩

/-- Inserts entries from left to right. -/
def ofList (es : List (κ × α)) : OrderedMap κ α :=
  es.foldl (fun m e => m.insert e.1 e.2) empty

/-- Finding a key after an entry is put. -/
theorem find_put (key other : κ) (x : α) (es : List (κ × α)) :
    find other (put key x es) = if key = other then some x else find other es := by
  induction es with
  | nil => simp [put, find]
  | cons e rest ih =>
    by_cases he : e.1 = key
    · by_cases h : key = other <;> simp [put, find, he, h]
    · by_cases h : key = other
      · subst h
        simp only [put, find, he, if_false, ih, if_true]
      · simp only [put, find, he, if_false, ih, h]

/-- The value under a key after an insertion. -/
@[simp] theorem get?_insert (m : OrderedMap κ α) (key other : κ) (x : α) :
    (m.insert key x).get? other = if key = other then some x else m.get? other :=
  find_put key other x m.entries

/-- The keys after an insertion. -/
theorem keys_insert (m : OrderedMap κ α) (key : κ) (x : α) :
    (m.insert key x).keys = if key ∈ m.keys then m.keys else m.keys ++ [key] :=
  map_fst_put key x m.entries

@[simp] theorem mem_keys_insert {m : OrderedMap κ α} {key other : κ} {x : α} :
    other ∈ (m.insert key x).keys ↔ other = key ∨ other ∈ m.keys := by
  rw [keys_insert]
  split
  · rename_i h
    exact ⟨Or.inr, fun c => c.elim (fun e => e ▸ h) id⟩
  · simp [or_comm]

/-- A key that is not there is put at the end. -/
theorem entries_insert_of_not_mem {m : OrderedMap κ α} {key : κ} (x : α) (h : key ∉ m.keys) :
    (m.insert key x).entries = m.entries ++ [(key, x)] := by
  have go : ∀ es : List (κ × α), key ∉ es.map Prod.fst → put key x es = es ++ [(key, x)] := by
    intro es
    induction es with
    | nil => intro _; rfl
    | cons e rest ih =>
      intro hmem
      rw [List.map_cons, List.mem_cons, not_or] at hmem
      have he : ¬ e.1 = key := fun c => hmem.1 c.symm
      simp [put, he, ih hmem.2]
  exact go m.entries h

/-! ## Removal -/

/-- The map without the entry under a key. -/
def erase (m : OrderedMap κ α) (key : κ) : OrderedMap κ α :=
  ⟨m.entries.filter fun e => e.1 ≠ key,
    m.nodup.sublist (List.Sublist.map _ List.filter_sublist)⟩

/-- The keys after a removal. -/
theorem keys_erase (m : OrderedMap κ α) (key : κ) :
    (m.erase key).keys = m.keys.filter fun k => k ≠ key := by
  simp only [keys, erase]
  induction m.entries with
  | nil => rfl
  | cons e rest ih => by_cases h : e.1 = key <;> simpa [h] using ih

@[simp] theorem mem_keys_erase {m : OrderedMap κ α} {key other : κ} :
    other ∈ (m.erase key).keys ↔ other ∈ m.keys ∧ other ≠ key := by
  simp [keys_erase]

end OrderedMap

end Amend
