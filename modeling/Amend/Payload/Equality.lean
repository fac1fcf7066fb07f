import Amend.Fault

/-!
# Equality of payloads

Numbers of all kinds, and truth values, are equal if they are equal in value; lists, tuples and other
sequences item by item, but never a list to a tuple; mappings whatever the order of their entries. What is not a number
equals nothing but itself, and asking whether a signalling number equals another one is a fault. A check
is equal to itself alone.

Membership follows the container: texts have parts, bytes have parts and numbers, mappings have their
keys, and sets and mappings take only what could be a member or key of one. A set may be looked for in a
set, where it is never found.
-/

namespace Amend

/-! ## Equality of what the library makes -/

namespace Value

mutual

/-- Two values are of one kind and hold equal data. -/
def same : Value → Value → Bool
  | .null, .null => true
  | .boolean a, .boolean b => a == b
  | .number a, .number b => a.number.same b.number
  | .text a, .text b => a == b
  | .sequence xs, .sequence ys => sameItems xs ys
  | .mapping es, .mapping fs => es.length == fs.length && sameEntries es fs
  | _, _ => false

/-- Two lists of values are equal item by item. -/
def sameItems : List Value → List Value → Bool
  | [], [] => true
  | x :: xs, y :: ys => x.same y && sameItems xs ys
  | _, _ => false

/-- Every entry of the first mapping is in the second. -/
def sameEntries : List (String × Value) → List (String × Value) → Bool
  | [], _ => true
  | (name, x) :: rest, fs =>
    (fs.any fun f => f.1 == name && x.same f.2) && sameEntries rest fs

end

end Value

/-- Two buckets have the same entries. -/
def sameBucket (a b : NameMap Value) : Bool :=
  a.entries.length == b.entries.length && Value.sameEntries a.entries b.entries

namespace Payload

/-! ## What can be a member of a set -/

mutual

/-- Why a value can be no member of a set, if it cannot. -/
def valueHashFault? : Value → Option Fault
  | .mapping _ => some (.unhashable ⟨"dict", "dict"⟩)
  | .sequence items => valuesHashFault? items
  | _ => none

/-- Why one of some values can be no member of a set. -/
def valuesHashFault? : List Value → Option Fault
  | [] => none
  | v :: rest => (valueHashFault? v).or (valuesHashFault? rest)

end

/-- Why a number can be no member of a set, if it cannot. -/
def numberHashFault? (n : Number) : Option Fault :=
  if n.exact.isSignalling then some .signallingMember else none

/-- Why a part of a key can be no member of a set, if it cannot. -/
def partHashFault? : KeyPart → Option Fault
  | .decimal d => numberHashFault? (.decimal d)
  | _ => none

mutual

/-- Why a payload can be no member of a set and no key of a mapping, if it cannot. -/
def hashFault? : Payload → Option Fault
  | .number n => numberHashFault? n
  | .list items => some (.unhashable (type (.list items)))
  | .mapping entries => some (.unhashable (type (.mapping entries)))
  | .set members => some (.unhashable (type (.set members)))
  | .series type _ _ => if type.hashable then none else some (.unhashable type.name)
  | .tuple items => itemsHashFault? items
  | .value v => valueHashFault? v
  | .key k => (partHashFault? k.partition).or (partHashFault? k.sort)
  | .request r =>
    (partHashFault? r.key.partition).or
      ((partHashFault? r.key.sort).or (some (.unhashable ⟨"dict", "dict"⟩)))
  | .policy _ => some (.unhashable ⟨"mappingproxy", "mappingproxy"⟩)
  | _ => none

/-- Why one of some payloads can be no member of a set. -/
def itemsHashFault? : List Payload → Option Fault
  | [] => none
  | p :: rest => (hashFault? p).or (itemsHashFault? rest)

end

/-- A payload that can be a member of a set. -/
def hashed (p : Payload) : Except Fault Unit :=
  match p.hashFault? with
  | some fault => .error fault
  | none => .ok ()

/-! ## Equality -/

/-- Equality of the payloads that have no parts and are not numbers. -/
def sameAtom : Payload → Payload → Bool
  | .null, .null => true
  | .text a, .text b => a == b
  | .bytes a, .bytes b => a == b
  | .pattern p, .pattern q => p.source == q.source
  | .check g, .check h => g.same h
  | .value a, .value b => a.same b
  | .rule a, .rule b => a == b
  | .object m, .object n => m == n
  | _, _ => false

/-- Equality of numbers of any kind. A number is equal to itself, whatever it is. -/
def sameNumber (a b : Number) : Except Fault Bool :=
  if a = b then .ok true
  else if a.signals b then .error .undecidable
  else .ok (a.same b)

/-- Equality of parts of keys. -/
def samePart (a b : KeyPart) : Except Fault Bool :=
  match a.toPayload.number?, b.toPayload.number? with
  | some m, some n => sameNumber m n
  | _, _ => .ok (a == b)

/-- Equality of keys. -/
def sameKey (a b : Key) : Except Fault Bool := do
  if ← samePart a.partition b.partition then samePart a.sort b.sort else return false

/-- Equality of requests. -/
def sameRequest (a b : Request) : Except Fault Bool := do
  if ← sameKey a.key b.key then
    return sameBucket a.assign b.assign && a.remove == b.remove &&
      sameBucket a.increment b.increment && sameBucket a.append b.append
  else return false

mutual

/-- Whether two payloads are equal. -/
def equals : Payload → Payload → Except Fault Bool
  | .boolean a, q =>
    match q.number? with
    | some n => sameNumber (.int a.toNat) n
    | none => .ok false
  | .number a, q =>
    match q.number? with
    | some n => sameNumber a n
    | none => .ok false
  | .list xs, .list ys => if xs.length = ys.length then equalItems xs ys else .ok false
  | .tuple xs, .tuple ys => do
    -- tuples are compared item by item even if one is longer
    if ← equalItems xs ys then return xs.length == ys.length else return false
  | .mapping es, .mapping fs => if es.length = fs.length then equalEntries es fs else .ok false
  | .set xs, .set ys => if xs.length = ys.length then equalMembers xs ys else .ok false
  | .series s _ xs, .series t _ ys =>
    if s = t ∧ xs.length = ys.length then equalItems xs ys else .ok false
  | .key a, .key b => sameKey a b
  | .request a, .request b => sameRequest a b
  | .policy ⟨rules, timed, counted, strict, checks⟩, .policy q =>
    if Policy.agrees ⟨rules, timed, counted, strict, checks⟩ q then equalChecks checks q.checks
    else .ok false
  | p, q => .ok (p.sameAtom q)

/-- Whether items are equal one by one, as far as both lists go. -/
def equalItems : List Payload → List Payload → Except Fault Bool
  | x :: xs, y :: ys => do if ← equals x y then equalItems xs ys else return false
  | _, _ => .ok true

/-- Whether the second mapping has an equal entry for every entry of the first. -/
def equalEntries : List (Payload × Payload) → List (Payload × Payload) → Except Fault Bool
  | [], _ => .ok true
  | (k, x) :: rest, fs => do
    match ← fs.findM? fun f => equals k f.1 with
    | some f => if ← equals x f.2 then equalEntries rest fs else return false
    | none => return false

/-- Whether the second set has every member of the first. -/
def equalMembers : List Payload → List Payload → Except Fault Bool
  | [], _ => .ok true
  | x :: xs, ys => do if ← ys.anyM fun y => equals x y then equalMembers xs ys else return false

/-- Whether two policies have the same checks. -/
def equalChecks : Option (List (Payload × List (Guard Payload))) →
    Option (List (Payload × List (Guard Payload))) → Except Fault Bool
  | none, none => .ok true
  | some es, some fs => if es.length = fs.length then equalGuarded es fs else .ok false
  | _, _ => .ok false

/-- Whether the second mapping has the same checks for every field of the first. -/
def equalGuarded : List (Payload × List (Guard Payload)) → List (Payload × List (Guard Payload)) →
    Except Fault Bool
  | [], _ => .ok true
  | (k, guards) :: rest, fs => do
    match ← fs.findM? fun f => equals k f.1 with
    | some f => if Guard.sameList guards f.2 then equalGuarded rest fs else return false
    | none => return false

end

/-- Whether two keys of mappings are the same; keys never raise the question of a signalling number. -/
def sameName (p q : Payload) : Bool :=
  match equals p q with
  | .ok b => b
  | .error _ => false

/-- Entries with one of them replaced in its place, or added at the end. -/
def putEntry (k p : Payload) : List (Payload × Payload) → List (Payload × Payload)
  | [] => [(k, p)]
  | e :: rest => if sameName e.1 k then (e.1, p) :: rest else e :: putEntry k p rest

/-- The mapping that entries make: a key that comes again keeps its place and takes the new value. -/
def ofEntries (entries : List (Payload × Payload)) : Payload :=
  .mapping (entries.foldl (fun es e => putEntry e.1 e.2 es) [])

/-! ## Membership -/

/-- Whether characters occur in a row in a text. -/
def occursIn {α : Type} [BEq α] (part : List α) : List α → Bool
  | [] => part.isEmpty
  | c :: rest => part.isPrefixOf (c :: rest) || occursIn part rest

/-- Whether a payload is in a container. -/
def memberOf (p : Payload) (container : Payload) : Except Fault Bool :=
  match container with
  | .text s =>
    match p with
    | .text part => .ok (occursIn part.toList s.toList)
    | _ => .error (.notText p.type)
  | .bytes bs =>
    match p with
    | .bytes part => .ok (occursIn part bs)
    | .boolean b => .ok (bs.contains (UInt8.ofNat b.toNat))
    | .number (.int n) =>
      if 0 ≤ n ∧ n < 256 then .ok (bs.contains (UInt8.ofNat n.toNat)) else .error .notByte
    | _ => .error (.notBytes p.type)
  | .list items => items.anyM fun q => equals q p
  | .tuple items => items.anyM fun q => equals q p
  | .series _ _ items => items.anyM fun q => equals q p
  | .mapping entries => do
    p.hashed
    entries.anyM fun e => equals e.1 p
  | .set members =>
    match p with
    | .set _ => .ok false
    | p => do
      p.hashed
      members.anyM fun q => equals q p
  | _ => .error (.notContainer container.type)

end Payload

end Amend
