import Amend.Value.Payload

/-!
# Keys from payloads

A key comes as a mapping with both of its parts. What else the mapping holds does not matter. A number
in a key need not fit into the store; that shows only when the key is encoded.
-/

namespace Amend

/-- The part of a key that a payload is. -/
def KeyPart.ofPayload? : Payload → Option KeyPart
  | .text s => if h : s = "" then none else some (.text s h)
  | .number (.int n) => some (.int n)
  | .number (.decimal d) => some (.decimal d)
  | _ => none

namespace Key

/-- The key with two parts. -/
def ofParts (partition sort : Payload) : Except Rejection Key :=
  match KeyPart.ofPayload? partition, KeyPart.ofPayload? sort with
  | some p, some s => .ok ⟨p, s⟩
  | _, _ => .error (.badKeyPart partition sort)

/-- The key that a payload spells out. -/
def ofPayload : Payload → Except Rejection Key
  | .mapping entries =>
    ofParts ((Payload.entry? entries "pk").getD .null) ((Payload.entry? entries "sk").getD .null)
  | p => .error (.notKey p)

/-- The attributes that the store receives for a key. -/
def toAttributes (k : Key) : Except Rejection (NameMap Attribute) := do
  let partition ← k.partition.toPayload.toAttribute
  let sort ← k.sort.toPayload.toAttribute
  return .ofList [("pk", partition), ("sk", sort)]

end Key

end Amend
