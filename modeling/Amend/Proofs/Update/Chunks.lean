import Amend.Update
import Mathlib.Algebra.Order.Floor.Ring
import Mathlib.Data.Rat.Floor

/-!
# Chunks of updates

A list is cut at the multiples of the size of its chunks: the chunk with number `i` starts `i * size` members into
the list and goes on for `size` members, as far as there are so many (`getElem_cut`). There is such a chunk as long
as its start lies in the list (`lt_length_cut_iff`), and all else is read off there: which chunks are full, and how
many there are. So the chunks are a partition of the list into pieces of one size, with a rest that is not empty
(`chunked_isPartition`).
-/

namespace Amend

variable {α : Type} {size : Nat}

/-! ## Where chunks start and end -/

/-- A list that is not empty is cut behind its first chunk, and goes on from there. -/
theorem cut_of_ne_nil (hsize : 0 < size) {xs : List α} (h : xs ≠ []) :
    cut size xs = xs.take size :: cut size (xs.drop size) := by
  obtain ⟨k, rfl⟩ := Nat.exists_eq_add_one.2 hsize
  cases xs with
  | nil => exact absurd rfl h
  | cons x rest => rw [cut, Nat.add_sub_cancel, List.take_succ_cons, List.drop_succ_cons]

/-- There is a chunk with a number as long as its start lies in the list. -/
theorem lt_length_cut_iff (hsize : 0 < size) (xs : List α) (i : Nat) :
    i < (cut size xs).length ↔ i * size < xs.length := by
  induction i generalizing xs with
  | zero =>
    rw [Nat.zero_mul, List.length_pos_iff, List.length_pos_iff]
    cases xs with
    | nil => simp [cut]
    | cons x rest => simp [cut]
  | succ i ih =>
    by_cases h : xs = []
    · simp [h, cut]
    · rw [cut_of_ne_nil hsize h, List.length_cons, Nat.succ_lt_succ_iff, ih, List.length_drop, Nat.succ_mul]
      omega

/-- An empty list has no chunk. -/
theorem ne_nil_of_lt_length_cut {xs : List α} {i : Nat} (h : i < (cut size xs).length) : xs ≠ [] := by
  rintro rfl
  simp [cut] at h

/-- A chunk is what stands in the list from its start on, as far as its size goes. -/
theorem getElem_cut (hsize : 0 < size) (xs : List α) (i : Nat) (h : i < (cut size xs).length) :
    (cut size xs)[i] = (xs.drop (i * size)).take size := by
  induction i generalizing xs with
  | zero => simp [cut_of_ne_nil hsize (ne_nil_of_lt_length_cut h)]
  | succ i ih =>
    have hcut := cut_of_ne_nil hsize (ne_nil_of_lt_length_cut h)
    simp only [hcut, List.length_cons, Nat.succ_lt_succ_iff] at h
    simp only [hcut, List.getElem_cons_succ]
    rw [ih _ h, List.drop_drop, Nat.succ_mul, Nat.add_comm size]

/-! ## Partitions -/

/-- Pieces of a list that give the list when they are put one behind the other. None is empty, all but the last have
one size and the last has at most this size, so that there are as many as the list needs. -/
structure IsPartition (size : Nat) (xs : List α) (pieces : List (List α)) : Prop where
  flatten_eq : pieces.flatten = xs
  ne_nil : ∀ piece ∈ pieces, piece ≠ []
  length_eq : ∀ piece ∈ pieces.dropLast, piece.length = size
  length_last : ∀ piece ∈ pieces.getLast?, 1 ≤ piece.length ∧ piece.length ≤ size
  count_eq : (pieces.length : Int) = ⌈(xs.length / size : ℚ)⌉

/-- The chunks of a list give the list. -/
theorem flatten_cut (hsize : 0 < size) (xs : List α) : (cut size xs).flatten = xs := by
  by_cases h : xs = []
  · simp [h, cut]
  · rw [cut_of_ne_nil hsize h, List.flatten_cons, flatten_cut hsize (xs.drop size), List.take_append_drop]
termination_by xs.length
decreasing_by
  have := List.length_pos_iff.2 h
  rw [List.length_drop]
  omega

/-- A chunk has all that is left of the list behind its start, and no more than its size. -/
theorem length_getElem_cut (hsize : 0 < size) (xs : List α) (i : Nat) (h : i < (cut size xs).length) :
    (cut size xs)[i].length = min size (xs.length - i * size) := by
  rw [getElem_cut hsize, List.length_take, List.length_drop]

/-- There are as many chunks as the list needs. -/
theorem length_cut (hsize : 0 < size) (xs : List α) :
    ((cut size xs).length : Int) = ⌈(xs.length / size : ℚ)⌉ := by
  have hpos : (0 : ℚ) < size := Nat.cast_pos.2 hsize
  -- the number of chunks is the least whose multiple of the size lies behind the list
  have hle : xs.length ≤ (cut size xs).length * size := by
    rw [← Nat.not_lt, ← lt_length_cut_iff hsize]
    exact lt_irrefl _
  have hlt : ((cut size xs).length - 1 : ℚ) * size < xs.length := by
    cases hcount : (cut size xs).length with
    | zero =>
      rw [Nat.cast_zero, zero_sub, neg_one_mul]
      exact (neg_neg_of_pos hpos).trans_le xs.length.cast_nonneg
    | succ k =>
      rw [Nat.cast_succ, add_sub_cancel_right]
      exact_mod_cast (lt_length_cut_iff hsize xs k).1 (by omega)
  symm
  rw [Int.ceil_eq_iff, lt_div_iff₀ hpos, div_le_iff₀ hpos]
  exact ⟨hlt, by exact_mod_cast hle⟩

/-- Cutting a list gives a partition of it. -/
theorem isPartition_cut (hsize : 0 < size) (xs : List α) : IsPartition size xs (cut size xs) where
  flatten_eq := flatten_cut hsize xs
  ne_nil := by
    intro piece hpiece
    obtain ⟨i, hi, rfl⟩ := List.getElem_of_mem hpiece
    have hstart := (lt_length_cut_iff hsize xs i).1 hi
    rw [← List.length_pos_iff, length_getElem_cut hsize]
    omega
  length_eq := by
    intro piece hpiece
    obtain ⟨i, hi, rfl⟩ := List.getElem_of_mem hpiece
    rw [List.length_dropLast] at hi
    -- the next chunk starts in the list, so this one is full
    have hnext := (lt_length_cut_iff hsize xs (i + 1)).1 (by omega)
    rw [Nat.succ_mul] at hnext
    rw [List.getElem_dropLast, length_getElem_cut hsize]
    omega
  length_last := by
    intro piece hpiece
    obtain ⟨i, hi, rfl⟩ := List.getElem_of_mem (List.mem_of_getLast? hpiece)
    have hstart := (lt_length_cut_iff hsize xs i).1 hi
    rw [length_getElem_cut hsize]
    omega
  count_eq := length_cut hsize xs

/-- Chunks of a positive size are a partition of what is cut; there are no chunks of another size, not even of an
empty list. -/
theorem chunked_isPartition (size : Int) (xs : List α) :
    (0 < size → ∃ chunks, chunked size xs = .ok chunks ∧ IsPartition size.toNat xs chunks) ∧
      (size ≤ 0 → chunked size xs = .error .emptyChunk) := by
  constructor
  · intro hsize
    refine ⟨cut size.toNat xs, ?_, isPartition_cut (by omega) xs⟩
    rw [chunked, if_neg (by omega)]
  · intro hsize
    rw [chunked, if_pos hsize]

/-- Sixty updates are submitted in three chunks, of which the last is not full; chunks without a member are
refused even where there is nothing to submit. -/
theorem chunked_isPartition_sixty :
    (∃ chunks, chunked submissionSize (List.range 60) = .ok chunks ∧ IsPartition 25 (List.range 60) chunks ∧
      chunks.length = 3) ∧ chunked 0 ([] : List Update) = .error .emptyChunk := by
  obtain ⟨chunks, hchunks, hpartition⟩ := (chunked_isPartition submissionSize (List.range 60)).1 (by decide)
  refine ⟨⟨chunks, hchunks, hpartition, ?_⟩, (chunked_isPartition 0 []).2 (by decide)⟩
  have hcount := hpartition.count_eq
  have hceil : ⌈(60 / 25 : ℚ)⌉ = 3 := by norm_num
  rw [List.length_range] at hcount
  exact_mod_cast hcount.trans hceil

end Amend
