import Mathlib.Data.List.Forall2
import Amend.OrderedMap

/-!
# Entries and look-up

A map is known by its entries: since no key occurs twice, looking up a key and finding an entry with it
are the same. What is inserted one after another under distinct keys are the entries, in that order. At the end
stands what is needed of lists whose members correspond one by one, and of things that may be there or not.
-/

namespace Amend.OrderedMap

variable {κ α : Type} [DecidableEq κ]

/-- What a key finds is in an entry with the key. -/
theorem mem_of_find {key : κ} {x : α} {es : List (κ × α)} (h : find key es = some x) : (key, x) ∈ es := by
  induction es with
  | nil => cases h
  | cons e rest ih =>
    rw [find] at h
    split at h
    · rename_i he
      obtain rfl := Option.some.inj h
      exact he ▸ List.mem_cons_self
    · exact List.mem_cons_of_mem e (ih h)

/-- Where no key occurs twice, an entry is what its key finds. -/
theorem find_eq_some_iff {key : κ} {x : α} {es : List (κ × α)} (h : (es.map Prod.fst).Nodup) :
    find key es = some x ↔ (key, x) ∈ es := by
  induction es with
  | nil => simp [find]
  | cons e rest ih =>
    rw [List.map_cons, List.nodup_cons] at h
    by_cases he : e.1 = key
    · rw [find, if_pos he, Option.some.injEq, List.mem_cons]
      constructor
      · rintro rfl
        exact Or.inl (Prod.ext he.symm rfl)
      · rintro (h' | h')
        · rw [← h']
        · exact absurd (he ▸ List.mem_map_of_mem h') h.1
    · rw [find, if_neg he, ih h.2, List.mem_cons]
      have hne : (key, x) ≠ e := fun c => he (congrArg Prod.fst c).symm
      simp only [hne, false_or]

/-- An entry is passed over in a search for another key. -/
theorem find_append_cons_of_ne {key other : κ} (h : other ≠ key) (x : α) (front back : List (κ × α)) :
    find other (front ++ (key, x) :: back) = find other (front ++ back) := by
  induction front with
  | nil => exact if_neg (Ne.symm h)
  | cons e rest ih => rw [List.cons_append, List.cons_append, find, find, ih]

/-- A key finds nothing exactly if no entry has it. -/
theorem find_eq_none_iff {key : κ} {es : List (κ × α)} : find key es = none ↔ key ∉ es.map Prod.fst := by
  induction es with
  | nil => exact iff_of_true rfl List.not_mem_nil
  | cons e rest ih =>
    rw [find, List.map_cons, List.mem_cons, not_or]
    split
    · rename_i he
      exact iff_of_false (Option.some_ne_none _) fun h => h.1 he.symm
    · rename_i he
      rw [ih, and_iff_right (Ne.symm he)]

/-- A key finds what its entry has become, if every entry is changed under its key. -/
theorem find_map {β : Type} (f : α → β) (key : κ) (es : List (κ × α)) :
    find key (es.map fun e => (e.1, f e.2)) = (find key es).map f := by
  induction es with
  | nil => rfl
  | cons e rest ih =>
    rw [List.map_cons, find, find]
    split
    · rfl
    · exact ih

/-- Looking up a key gives the value of its entry. -/
theorem get?_eq_some_iff {m : OrderedMap κ α} {key : κ} {x : α} :
    m.get? key = some x ↔ (key, x) ∈ m.entries :=
  find_eq_some_iff m.nodup

/-- A key finds nothing exactly if it is not there. -/
theorem get?_eq_none_iff {m : OrderedMap κ α} {key : κ} : m.get? key = none ↔ key ∉ m.keys :=
  find_eq_none_iff

/-- The value under a key after a removal. -/
@[simp] theorem get?_erase (m : OrderedMap κ α) (key other : κ) :
    (m.erase key).get? other = if key = other then none else m.get? other := by
  by_cases h : key = other
  · rw [if_pos h, get?_eq_none_iff, mem_keys_erase]
    exact fun c => c.2 h.symm
  · rw [if_neg h]
    ext x
    simp only [get?_eq_some_iff, erase, List.mem_filter, decide_eq_true_eq]
    exact and_iff_left fun c => h c.symm

/-- Removing a key twice is removing it once. -/
theorem erase_self (m : OrderedMap κ α) (key : κ) : (m.erase key).erase key = m.erase key := by
  ext1
  simp [erase, List.filter_filter]

/-- Two removals may come in either order. -/
theorem erase_comm (m : OrderedMap κ α) (key other : κ) :
    (m.erase key).erase other = (m.erase other).erase key := by
  ext1
  simp only [erase, List.filter_filter, Bool.and_comm]

/-- Removing a key that is not there changes nothing. -/
theorem erase_of_not_mem {m : OrderedMap κ α} {key : κ} (h : key ∉ m.keys) : m.erase key = m := by
  ext1
  refine List.filter_eq_self.2 fun e he => decide_eq_true ?_
  rintro rfl
  exact h (List.mem_map_of_mem he)

/-- Inserting the value that a key has changes nothing. -/
theorem insert_of_get? {m : OrderedMap κ α} {key : κ} {x : α} (h : m.get? key = some x) :
    m.insert key x = m := by
  have hput : ∀ es : List (κ × α), find key es = some x → put key x es = es := by
    intro es
    induction es with
    | nil => intro hfind; cases hfind
    | cons e rest ih =>
      intro hfind
      rw [find] at hfind
      rw [put]
      split
      · rename_i he
        rw [if_pos he] at hfind
        rw [← he, ← Option.some.inj hfind]
      · rename_i he
        rw [if_neg he] at hfind
        rw [ih hfind]
  exact ext (hput m.entries h)

/-! ## Insertion of many entries -/

/-- Entries under new and distinct keys are put at the end, in order. -/
theorem entries_foldl_insert {es : List (κ × α)} {m : OrderedMap κ α}
    (h : (m.keys ++ es.map Prod.fst).Nodup) :
    (es.foldl (fun m e => m.insert e.1 e.2) m).entries = m.entries ++ es := by
  induction es generalizing m with
  | nil => simp
  | cons e rest ih =>
    have hnew : e.1 ∉ m.keys := by
      intro hmem
      exact (List.nodup_append.1 h).2.2 e.1 hmem e.1 (by simp) rfl
    have hkeys : (m.insert e.1 e.2).keys = m.keys ++ [e.1] := by rw [keys_insert, if_neg hnew]
    rw [List.foldl_cons, ih (by rw [hkeys]; simpa using h), entries_insert_of_not_mem e.2 hnew]
    simp

/-- Entries under distinct keys are the entries of the map that they make. -/
theorem entries_ofList {es : List (κ × α)} (h : (es.map Prod.fst).Nodup) : (ofList es).entries = es := by
  rw [ofList, entries_foldl_insert (by simpa [empty, keys] using h)]
  rfl

/-- The keys of a map that is made of entries under distinct keys are theirs. -/
theorem keys_ofList {es : List (κ × α)} (h : (es.map Prod.fst).Nodup) :
    (ofList es).keys = es.map Prod.fst := by
  rw [keys, entries_ofList h]

/-- A map that is made of entries under distinct keys finds each of them. -/
theorem get?_ofList {es : List (κ × α)} (h : (es.map Prod.fst).Nodup) {key : κ} {x : α} :
    (ofList es).get? key = some x ↔ (key, x) ∈ es := by
  rw [get?_eq_some_iff, entries_ofList h]

/-- Inserting the entries of two lists is inserting those of their concatenation. -/
theorem foldl_insert_ofList (es fs : List (κ × α)) :
    fs.foldl (fun m e => m.insert e.1 e.2) (ofList es) = ofList (es ++ fs) := by
  rw [ofList, ofList, List.foldl_append]

/-! ## Writes -/

/-- The map after a write, which puts a value under a key or removes the key. -/
def write (m : OrderedMap κ α) (w : κ × Option α) : OrderedMap κ α :=
  match w.2 with
  | some x => m.insert w.1 x
  | none => m.erase w.1

/-- The value under a key after a write. -/
theorem get?_write (m : OrderedMap κ α) (w : κ × Option α) (key : κ) :
    (m.write w).get? key = if w.1 = key then w.2 else m.get? key := by
  rw [write]
  split
  · rename_i hw
    rw [get?_insert, hw]
  · rename_i hw
    rw [get?_erase, hw]

/-- A key under which nothing is written finds what it found before. -/
theorem get?_foldl_write_of_not_mem {ws : List (κ × Option α)} {m : OrderedMap κ α} {key : κ}
    (h : key ∉ ws.map Prod.fst) : (ws.foldl write m).get? key = m.get? key := by
  induction ws generalizing m with
  | nil => rfl
  | cons w rest ih =>
    rw [List.map_cons, List.mem_cons, not_or] at h
    rw [List.foldl_cons, ih h.2, get?_write, if_neg fun c => h.1 c.symm]

/-- After writes under distinct keys, each of them finds what is written under it. -/
theorem get?_foldl_write_of_mem {ws : List (κ × Option α)} {m : OrderedMap κ α}
    (h : (ws.map Prod.fst).Nodup) {w : κ × Option α} (hw : w ∈ ws) :
    (ws.foldl write m).get? w.1 = w.2 := by
  induction ws generalizing m with
  | nil => cases hw
  | cons v rest ih =>
    rw [List.map_cons, List.nodup_cons] at h
    rw [List.foldl_cons]
    rcases List.mem_cons.1 hw with rfl | hw
    · rw [get?_foldl_write_of_not_mem h.1, get?_write, if_pos rfl]
    · exact ih h.2 hw

end Amend.OrderedMap

namespace Amend

/-! ## Lists that correspond -/

/-- In lists that correspond, what is in the first has something to correspond to. -/
theorem exists_of_mem_forall₂ {α β : Type} {R : α → β → Prop} {xs : List α} {ys : List β}
    (h : List.Forall₂ R xs ys) {x : α} (hx : x ∈ xs) : ∃ y ∈ ys, R x y := by
  induction h with
  | nil => cases hx
  | cons hxy _ ih =>
    rcases List.mem_cons.1 hx with rfl | hx
    · exact ⟨_, List.mem_cons_self, hxy⟩
    · obtain ⟨y, hy, hR⟩ := ih hx
      exact ⟨y, List.mem_cons_of_mem _ hy, hR⟩

/-- Two lists that correspond to a third one correspond to each other. -/
theorem forall₂_of_common {α β γ : Type} {R : α → β → Prop} {S : α → γ → Prop} {T : β → γ → Prop}
    (hT : ∀ x y z, R x y → S x z → T y z) {xs : List α} {ys : List β} {zs : List γ}
    (hR : List.Forall₂ R xs ys) (hS : List.Forall₂ S xs zs) : List.Forall₂ T ys zs := by
  induction hR generalizing zs with
  | nil =>
    cases hS
    exact .nil
  | cons hxy _ ih =>
    cases hS with
    | cons hxz hrest => exact .cons (hT _ _ _ hxy hxz) (ih hrest)

/-- Lists correspond item by item if what they have under each number corresponds. -/
theorem forall₂_iff_getElem? {α β : Type} {R : α → β → Prop} {xs : List α} {ys : List β} :
    List.Forall₂ R xs ys ↔ ∀ i : Nat, Option.Rel R xs[i]? ys[i]? := by
  constructor
  · intro h
    induction h with
    | nil => exact fun i => .none
    | cons hxy _ ih =>
      intro i
      cases i with
      | zero => exact .some hxy
      | succ i => exact ih i
  · intro h
    induction xs generalizing ys with
    | nil =>
      cases ys with
      | nil => exact .nil
      | cons y ys => cases h 0
    | cons x xs ih =>
      cases ys with
      | nil => cases h 0
      | cons y ys =>
        cases h 0 with
        | some hxy => exact .cons hxy (ih fun i => h (i + 1))

/-! ## Things that may be there -/

section Rel

variable {α β : Type} {R : α → β → Prop} {x : α} {o : Option β}

/-- What is there corresponds to something that is there. -/
theorem rel_some_left_iff : Option.Rel R (some x) o ↔ ∃ y, o = some y ∧ R x y := by
  cases o <;> simp

/-- What is not there corresponds to nothing. -/
theorem rel_none_left_iff : Option.Rel R none o ↔ o = none := by
  cases o <;> simp

end Rel

end Amend
