import Amend.Request.Payload

/-!
# Update expressions

An update expression tells the store what to do to the fields of a record. It names no field and holds
no value itself: both are referred to by placeholders, and two maps say what these stand for. A field
whose name is plain is its own token; every other field gets a token from its position, which starts
with a low line and so is no plain name.

Increments and appends start from zero or an empty list where the field is missing, and those two have
placeholders of their own.
-/

namespace Amend

/-- An update expression, with what its placeholders stand for. -/
structure Expression where
  text : String
  names : NameMap String
  values : NameMap Attribute

namespace Expression

/-! ## Tokens -/

/-- An ASCII letter, digit or low line. -/
def isTokenChar (c : Char) : Bool :=
  c.isAlphanum || c == '_'

/-- A name that can stand in a placeholder as it is: an ASCII letter, followed by letters, digits and
low lines. A single line feed may end it. -/
def isPlain (name : List Char) : Bool :=
  match name with
  | [] => false
  | c :: rest => c.isAlpha && (rest.all isTokenChar || (rest.getLast? == some '\n' && rest.dropLast.all isTokenChar))

/-- The token of a field at a position. -/
def token (field : String) (position : Nat) : String :=
  if isPlain field.toList then field else "_f" ++ toString position

/-- The tokens of fields by their positions; a field that occurs again takes its last position. -/
def tokens (fields : List String) : NameMap String :=
  fields.zipIdx.foldl (fun m e => m.insert e.1 (token e.1 e.2)) .empty

/-- The placeholder of the number that increments start from. -/
def startZero : String := ":_start_zero"

/-- The placeholder of the list that appends start from. -/
def startEmpty : String := ":_start_empty"

/-! ## Building -/

/-- An expression that is being built: the items of its first clause, and the two maps. -/
structure Draft where
  items : List String
  names : NameMap String
  values : NameMap Attribute

/-- The draft of the empty expression. -/
def Draft.empty : Draft := ⟨[], .empty, .empty⟩

/-- A draft that knows what a value placeholder stands for. -/
def Draft.define (d : Draft) (placeholder : String) (a : Attribute) : Draft :=
  { d with values := d.values.insert placeholder a }

/-- A draft with one more item, for a field with a token and a value. -/
def Draft.add (item : String → String → String) (d : Draft) (field token : String) (v : Value) : Draft :=
  let name := "#" ++ token
  let value := ":" ++ token
  ⟨d.items ++ [item name value], d.names.insert name field, d.values.insert value v.toAttribute⟩

/-- The value of a field in a bucket, which should be there. -/
def valueIn (bucket : NameMap Value) (field : String) : Except Fault Value :=
  match bucket.get? field with
  | some v => .ok v
  | none => .error (.missingField field)

/-- A draft with an item for each of some fields. -/
def Draft.addAll (item : String → String → String) (ts : NameMap String) (bucket : NameMap Value) :
    List String → Draft → Except Fault Draft
  | [], d => .ok d
  | field :: rest, d => do
    let v ← valueIn bucket field
    addAll item ts bucket rest (d.add item field ((ts.get? field).getD "") v)

/-- How a field is assigned. -/
def assignItem (name value : String) : String :=
  name ++ " = " ++ value

/-- How a field is incremented, a missing one counting as zero. -/
def incrementItem (name value : String) : String :=
  name ++ " = if_not_exists(" ++ name ++ ", " ++ startZero ++ ") + " ++ value

/-- How a field is appended to, a missing one counting as the empty list. -/
def appendItem (name value : String) : String :=
  name ++ " = list_append(if_not_exists(" ++ name ++ ", " ++ startEmpty ++ "), " ++ value ++ ")"

/-- A clause with its items, if it has any. -/
def clause (word : String) (items : List String) : List String :=
  if items.isEmpty then [] else [word ++ " " ++ ", ".intercalate items]

/-- The update expression for the fields of a request. -/
def compile (fields : Fields) (r : Request) : Except (OrFault Rejection) Expression :=
  if fields.isEmpty then .error (.refused .emptyUpdate)
  else orFault do
    let ts := tokens fields.all
    let d ← Draft.addAll assignItem ts r.assign fields.assign .empty
    -- what a missing field starts from is defined before the values that are added to it
    let d := if fields.increment.isEmpty then d else d.define startZero .zero
    let d ← Draft.addAll incrementItem ts r.increment fields.increment d
    let d := if fields.append.isEmpty then d else d.define startEmpty .emptyList
    let d ← Draft.addAll appendItem ts r.append fields.append d
    -- a removal has a name, but no value
    let removed := fields.remove.map fun f => ("#" ++ (ts.get? f).getD "", f)
    return {
      text := " ".intercalate (clause "SET" d.items ++ clause "REMOVE" (removed.map Prod.fst))
      names := removed.foldl (fun m e => m.insert e.1 e.2) d.names
      values := d.values }

end Expression

end Amend
