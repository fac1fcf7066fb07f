import Amend.OrderedMap

/-!
# Counters

What is counted while batches are compiled: for each table the requests that were compiled and those
that were rejected, the rejections by kind, and the batches.
-/

namespace Amend

/-- Counts by labels. Labels that were never used have no count. -/
structure Counters where
  /-- Requests by table and outcome. -/
  requests : OrderedMap (String × String) Nat
  /-- Rejections by table and kind. -/
  rejections : OrderedMap (String × String) Nat
  /-- Batches by table. -/
  batches : NameMap Nat

namespace Counters

/-- No counts. -/
def zero : Counters := ⟨.empty, .empty, .empty⟩

instance : Inhabited Counters := ⟨zero⟩

/-- Counts with one of them raised by one. -/
def bump {κ : Type} [DecidableEq κ] (m : OrderedMap κ Nat) (label : κ) : OrderedMap κ Nat :=
  m.insert label ((m.get? label).getD 0 + 1)

/-- Raising a count raises it by one and leaves the others alone. -/
theorem getD_get?_bump {κ : Type} [DecidableEq κ] (m : OrderedMap κ Nat) (label other : κ) :
    ((bump m label).get? other).getD 0 =
      (m.get? other).getD 0 + (if label = other then 1 else 0) := by
  by_cases h : label = other <;> simp [bump, h]

/-- A count that is not raised stays as it is. -/
theorem get?_bump_of_ne {κ : Type} [DecidableEq κ] (m : OrderedMap κ Nat) {label other : κ}
    (h : other ≠ label) : (bump m label).get? other = m.get? other := by
  rw [bump, OrderedMap.get?_insert, if_neg (Ne.symm h)]

/-- Counts a compiled request. -/
def compiled (c : Counters) (table : String) : Counters :=
  { c with requests := bump c.requests (table, "compiled") }

/-- Counts a rejected request. -/
def rejected (c : Counters) (table kind : String) : Counters :=
  { c with
    requests := bump c.requests (table, "rejected")
    rejections := bump c.rejections (table, kind) }

/-- Counts a batch. -/
def batch (c : Counters) (table : String) : Counters :=
  { c with batches := bump c.batches table }

end Counters

end Amend
