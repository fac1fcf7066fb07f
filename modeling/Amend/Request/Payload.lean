import Amend.Key.Payload
import Amend.Payload.Equality

/-!
# Requests from payloads

A request comes as a mapping with a key and a bucket for each action, under either name of the action.
The key is looked at first, then the names of the buckets, and then the buckets in the order remove,
assign, increment, append. A bucket that is null is as good as absent.

`Request.parse` and `Request.ofPayload` find the reason why a payload is no request, and `Request.ofMapping`
and `Request.of` are the calls that tell it.
-/

namespace Amend

/-- The action that a payload names. -/
def Action.ofPayload? : Payload → Option Action
  | .text s => Action.ofName? s
  | _ => none

/-- The action that a payload names; only what could be the key of a mapping may be asked about. -/
def Action.parse (name : Payload) : Except Fault Action := do
  name.hashed
  match Action.ofPayload? name with
  | some a => return a
  | none => throw (.ofUnknownAction name)

namespace Request

/-! ## Buckets -/

/-- The name of a field, which must not be empty. -/
def fieldName (a : Action) : Payload → Except Rejection { name : String // name ≠ "" }
  | .text s => if h : s = "" then .error (.badFieldName a (.text s)) else .ok ⟨s, h⟩
  | p => .error (.badFieldName a p)

/-- The names of fields, one after another. -/
def fieldNames (a : Action) : List Payload → Except Rejection { names : List String // "" ∉ names }
  | [] => .ok ⟨[], by simp⟩
  | p :: rest => do
    let name ← fieldName a p
    let names ← fieldNames a rest
    return ⟨name.1 :: names.1, by simp [name.2.symm, names.2]⟩

/-- The bucket of removals: any sequence but a text or bytes. -/
def removal : Payload → Except Rejection { names : List String // "" ∉ names }
  | .null => .ok ⟨[], by simp⟩
  | .list items => fieldNames .remove items
  | .tuple items => fieldNames .remove items
  | .series _ _ items => fieldNames .remove items
  | _ => .error .badRemoval

/-- A bucket of values whose names are not empty. -/
abbrev Bucket := { bucket : NameMap Value // "" ∉ bucket.keys }

/-- A bucket with one more entry. -/
def Bucket.insert (b : Bucket) (name : String) (h : name ≠ "") (v : Value) : Bucket :=
  ⟨b.1.insert name v, by simp [b.2, h.symm]⟩

/-- A bucket with more entries, one after another; in each the name is looked at before the value. -/
def Bucket.read (a : Action) (b : Bucket) : List (Payload × Payload) → Except Rejection Bucket
  | [] => .ok b
  | (key, p) :: rest => do
    let name ← fieldName a key
    let v ← Value.ofPayload p
    Bucket.read a (b.insert name.1 name.2 v) rest

/-- The bucket of one of the actions that have values. -/
def bucket (a : Action) : Payload → Except Rejection Bucket
  | .null => .ok ⟨.empty, by simp⟩
  | .mapping entries => Bucket.read a ⟨.empty, by simp⟩ entries
  | _ => .error (.badBucket a)

/-- A request with a key and its four buckets. -/
def ofBuckets (key : Key) (assign remove increment append : Payload) : Except Rejection Request := do
  let remove ← removal remove
  let assign ← bucket .assign assign
  let increment ← bucket .increment increment
  let append ← bucket .append append
  return ⟨key, assign.1, remove.1, increment.1, append.1,
    by simp [assign.2, remove.2, increment.2, append.2]⟩

/-- A request whose key has been made before. -/
def ofParts (key assign remove increment append : Payload) : Except Rejection Request :=
  match key with
  | .key k => ofBuckets k assign remove increment append
  | p => .error (.notKey p)

/-! ## Requests -/

/-- The buckets of a request by action: each entry but the key names an action, and no action has two
buckets that are not null. -/
def bucketsOf : List (Payload × Payload) → OrderedMap Action Payload →
    Except Rejection (OrderedMap Action Payload)
  | [], found => .ok found
  | (name, p) :: rest, found =>
    if Payload.sameName name (.text "key") then bucketsOf rest found
    else match Action.ofPayload? name with
      | none => .error (.unknownAction name)
      | some a =>
        if a ∈ found.keys then .error (.repeatedAction a)
        else match p with
          | .null => bucketsOf rest found
          | p => bucketsOf rest (found.insert a p)

/-- The request that a mapping spells out. -/
def parse : Payload → Except Rejection Request
  | .mapping entries => do
    let key ← Key.ofPayload ((Payload.entry? entries "key").getD .null)
    -- the names of all buckets are looked at before what any of them holds
    let found ← bucketsOf entries .empty
    let bucket (a : Action) := (found.get? a).getD .null
    ofBuckets key (bucket .assign) (bucket .remove) (bucket .increment) (bucket .append)
  | p => .error (.notRequest p)

/-- The request that a payload is. A request that has been made before stays as it is. -/
def ofPayload : Payload → Except Rejection Request
  | .request r => .ok r
  | p => parse p

/-- Reads the request that a mapping spells out. -/
def ofMapping (raw : Payload) : Except (OrFault Rejection) Request :=
  orRefuse (parse raw)

/-- Reads the request that a payload is. -/
def of (raw : Payload) : Except (OrFault Rejection) Request :=
  orRefuse (ofPayload raw)

/-- The values under an action. -/
def valuesUnder (r : Request) (a : Action) : Except Fault (NameMap Value) :=
  match r.bucket? a with
  | some bucket => .ok bucket
  | none => .error (.noValues a)

end Request

end Amend
