import Amend.Policy.Basic
import Amend.Regex.Basic
import Amend.Request

/-!
# Payloads

A payload is an untrusted value: what a caller passes as a request, a policy, a field value or an
argument of a check. It is data of the usual kinds, or a check, or one of the things this library makes
(a value, a key, a field rule, a request, a policy), or something else of which nothing is known.

Mappings keep the order of their entries. `Payload.shown` writes a payload with its kind, as messages
quote it, and `Payload.plain` writes it plainly, which differs for texts and decimals.
-/

namespace Amend

/-- What a type is called: its own name, and its full name, which is the same for most types. -/
structure TypeName where
  short : String
  full : String := short
  deriving DecidableEq, Repr

/-- A type of sequences besides lists and tuples: its name, and whether its sequences can be members of a
set. -/
structure SequenceType where
  name : TypeName
  hashable : Bool
  deriving DecidableEq, Repr

/-- An untrusted value. -/
inductive Payload where
  | null
  | boolean (b : Bool)
  | number (n : Number)
  | text (s : String)
  | bytes (bs : List UInt8)
  | list (items : List Payload)
  | tuple (items : List Payload)
  | mapping (entries : List (Payload × Payload))
  | set (members : List Payload)
  /-- A sequence of another type, such as a range or a queue, with how it is shown, if it can be. -/
  | series (type : SequenceType) (form : Option String) (items : List Payload)
  /-- A compiled text pattern. -/
  | pattern (p : TextPattern)
  | check (g : Guard Payload)
  | value (v : Value)
  | key (k : Key)
  | rule (r : FieldRule)
  | request (r : Request)
  | policy (p : Policy Payload)
  /-- Something that is no data, with a mark that tells it from others. -/
  | object (mark : Nat)

namespace Payload

instance : Inhabited Payload := ⟨.null⟩

/-- An integer. -/
abbrev int (n : Int) : Payload := .number (.int n)

/-! ## Types -/

/-- The type of a number. -/
def numberType : Number → TypeName
  | .int _ => ⟨"int", "int"⟩
  | .double _ => ⟨"float", "float"⟩
  | .decimal _ => ⟨"Decimal", "decimal.Decimal"⟩

/-- The type of a payload. -/
def type : Payload → TypeName
  | .null => ⟨"NoneType", "NoneType"⟩
  | .boolean _ => ⟨"bool", "bool"⟩
  | .number n => numberType n
  | .text _ => ⟨"str", "str"⟩
  | .bytes _ => ⟨"bytes", "bytes"⟩
  | .list _ => ⟨"list", "list"⟩
  | .tuple _ => ⟨"tuple", "tuple"⟩
  | .mapping _ => ⟨"dict", "dict"⟩
  | .set _ => ⟨"set", "set"⟩
  | .series type .. => type.name
  | .pattern _ => ⟨"Pattern", "re.Pattern"⟩
  | .check _ => ⟨"function", "function"⟩
  | .value _ => ⟨"Value", "Value"⟩
  | .key _ => ⟨"RecordKey", "RecordKey"⟩
  | .rule _ => ⟨"ActionRule", "ActionRule"⟩
  | .request _ => ⟨"MutationRequest", "MutationRequest"⟩
  | .policy _ => ⟨"PolicyConfig", "PolicyConfig"⟩
  | .object _ => ⟨"object", "object"⟩

/-- The number that a payload counts as in comparisons: truth values count as one and zero. -/
def number? : Payload → Option Number
  | .boolean b => some (.int b.toNat)
  | .number n => some n
  | _ => none

/-- What a collection yields, one after another: the keys of a mapping, the characters of a text, the
numbers of bytes. -/
def elements? : Payload → Option (List Payload)
  | .text s => some (s.toList.map fun c => .text (String.singleton c))
  | .bytes bs => some (bs.map fun b => int b.toNat)
  | .list items => some items
  | .tuple items => some items
  | .mapping entries => some (entries.map Prod.fst)
  | .set members => some members
  | .series _ _ items => some items
  | _ => none

/-- Whether a payload counts as true: zero, nothing and the empty collections do not. -/
def truthy : Payload → Bool
  | .null => false
  | .boolean b => b
  | .number n => !n.isZero
  | .text s => !s.isEmpty
  | .bytes bs => !bs.isEmpty
  | .list items => !items.isEmpty
  | .tuple items => !items.isEmpty
  | .mapping entries => !entries.isEmpty
  | .set members => !members.isEmpty
  | .series _ _ items => !items.isEmpty
  | _ => true

/-- The entry under a text. -/
def entry? {α : Type} (entries : List (Payload × α)) (name : String) : Option α :=
  (entries.find? fun e => match e.1 with
    | .text s => s == name
    | _ => false).map Prod.snd

end Payload

/-- The payload that a part of a key is. -/
def KeyPart.toPayload : KeyPart → Payload
  | .text s _ => .text s
  | .int n => .number (.int n)
  | .decimal d => .number (.decimal d)

end Amend
