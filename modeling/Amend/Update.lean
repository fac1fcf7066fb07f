import Amend.Expression
import Amend.Judgement

/-!
# Updates

An update is what the store is given for one record: where the record is, the update expression with
what its placeholders stand for, and the condition that the record exists. Updates are submitted in
chunks of limited size.
-/

namespace Amend

/-- A conditional update of one record. -/
structure Update where
  table : String
  key : NameMap Attribute
  expression : String
  names : NameMap String
  values : NameMap Attribute
  condition : String

namespace Update

/-- The condition that the record exists. -/
def recordExists : String := "attribute_exists(pk)"

/-- The values as they are submitted: none at all rather than an empty map. -/
def submittedValues? (u : Update) : Option (NameMap Attribute) :=
  if u.values.isEmpty then none else some u.values

end Update

/-- The update that a request amounts to under a policy: the request is judged, then compiled, and its
key is encoded last. -/
def Request.compile (table : String) (r : Request) (p : Policy Payload) :
    Except (OrFault Rejection) Update := do
  r.judge p
  let e ← Expression.compile r.fields r
  -- a number in the key may turn out not to fit only now
  let key ← orRefuse r.key.toAttributes
  return ⟨table, key, e.text, e.names, e.values, Update.recordExists⟩

/-! ## Chunks -/

/-- Cuts a list into pieces of a positive size, of which the last may be shorter. -/
def cut {α : Type} (size : Nat) : List α → List (List α)
  | [] => []
  | x :: rest => (x :: rest.take (size - 1)) :: cut size (rest.drop (size - 1))
termination_by xs => xs.length
decreasing_by
  simp only [List.length_drop, List.length_cons]
  omega

/-- How many updates are submitted together where nothing else is asked for. -/
def submissionSize : Int := 25

/-- Cuts a list into chunks, whose size must be positive. -/
def chunked {α : Type} (size : Int) (xs : List α) : Except Fault (List (List α)) :=
  if size ≤ 0 then .error .emptyChunk else .ok (cut size.toNat xs)

end Amend
