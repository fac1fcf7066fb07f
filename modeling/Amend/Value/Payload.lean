import Amend.Rejection

/-!
# Values from payloads

Classification turns a payload into a value, or says why the store cannot hold it. Tuples become
sequences like lists, and a mapping needs texts as its keys. A value that has been made before stays as it
is. Unwrapping turns a value back into plain data.

`Value.ofPayload` finds the reason why the store cannot hold a payload, and `Value.of` is the call that tells
it.
-/

namespace Amend

namespace Value

/-! ## Classification -/

/-- A number as a value, if the store can hold it. -/
def ofNumber (n : Number) : Except Rejection Value :=
  if h : n.storable = true then .ok (.number ⟨n, h⟩)
  else if n.isFinite then .error (.notStorable n)
  else .error (.notFinite n)

mutual

/-- The value that a payload is. -/
def ofPayload : Payload → Except Rejection Value
  | .null => .ok .null
  | .boolean b => .ok (.boolean b)
  | .number n => ofNumber n
  | .text s => .ok (.text s)
  | .list items => do return .sequence (← ofItems items)
  | .tuple items => do return .sequence (← ofItems items)
  | .mapping entries => do return .mapping (← ofEntries entries)
  | .value v => .ok v
  | p => .error (.unsupportedType p.type)

/-- The values that items are, one after another. -/
def ofItems : List Payload → Except Rejection (List Value)
  | [] => .ok []
  | p :: rest => do
    let v ← ofPayload p
    return v :: (← ofItems rest)

/-- The values that entries are, one after another. -/
def ofEntries : List (Payload × Payload) → Except Rejection (List (String × Value))
  | [] => .ok []
  | (.text name, p) :: rest => do
    let v ← ofPayload p
    return (name, v) :: (← ofEntries rest)
  | (key, _) :: _ => .error (.unsupportedName key)

end

/-- Classifies a payload. -/
def of (raw : Payload) : Except (OrFault Rejection) Value :=
  orRefuse (ofPayload raw)

/-! ## Unwrapping -/

mutual

/-- A value as plain data. -/
def toPayload : Value → Payload
  | .null => .null
  | .boolean b => .boolean b
  | .number n => .number n.number
  | .text s => .text s
  | .sequence items => .list (itemPayloads items)
  | .mapping entries => .mapping (entryPayloads entries)

/-- The items of a sequence as plain data. -/
def itemPayloads : List Value → List Payload
  | [] => []
  | v :: rest => v.toPayload :: itemPayloads rest

/-- The entries of a mapping as plain data. -/
def entryPayloads : List (String × Value) → List (Payload × Payload)
  | [] => []
  | (name, v) :: rest => (.text name, v.toPayload) :: entryPayloads rest

end

end Value

/-- The attribute that the store receives for a payload. -/
def Payload.toAttribute (p : Payload) : Except Rejection Attribute := do
  return (← Value.ofPayload p).toAttribute

end Amend
