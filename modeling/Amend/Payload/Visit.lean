import Amend.Payload.Equality

/-!
# The order in which a set visits its members

A set keeps its members in a table, whose size is a power of two, and visits them place by place. The place
of a member depends on its seed: it is the first free one of a run that starts at the seed, and then of
runs further on. A table that becomes too full is replaced by a larger one.

The seed of a number is its residue, so that equal numbers of different kinds have one seed. A tuple mixes
the seeds of its items, and so does a key with its parts. Other members have seeds that depend on nothing
in them. They are only counted here.
-/

namespace Amend

namespace Number

/-! ## Residues -/

/-- The modulus of residues, which is prime. -/
def modulus : Nat := 2 ^ 61 - 1

/-- What makes one with ten, up to multiples of the modulus. -/
def inverseTen : Nat := 2075258708292324556

example : 10 * inverseTen % modulus = 1 := by decide

/-- A power up to multiples of the modulus. -/
def powMod (b : Nat) : Nat → Nat
  | 0 => 1
  | e + 1 =>
    let half := powMod b ((e + 1) / 2)
    half * half * (if (e + 1) % 2 = 1 then b else 1) % modulus
termination_by e => e
decreasing_by omega

/-- The residue of a number with a sign. There is none of minus one. -/
def signed (negative : Bool) (residue : Nat) : Int :=
  if negative then (if residue = 1 then -2 else -residue) else residue

/-- The residue of a decimal, if it is a number. -/
def residueOf? : Decimal → Option Int
  | .finite negative c e =>
    some (signed negative (c * powMod (if 0 ≤ e then 10 else inverseTen) e.natAbs % modulus))
  | .infinite negative => some (signed negative 314159)
  | .nan .. => none

/-- The residue of a number. -/
def residue? (n : Number) : Option Int :=
  residueOf? n.exact

end Number

namespace Payload

/-! ## Seeds -/

/-- A word of sixty-four bits, turned by thirty-one of them. -/
def turned (word : Nat) : Nat :=
  word * 2 ^ 31 % 2 ^ 64 + word / 2 ^ 33

/-- A word into which one more seed is mixed. -/
def mixed (word : Nat) (seed : Int) : Nat :=
  turned ((word + (seed % 2 ^ 64).toNat * 14029467366897019727) % 2 ^ 64) * 11400714785074694791 % 2 ^ 64

/-- The seed of a tuple whose items have some seeds. There is none of minus one. -/
def mixedSeed (seeds : List Int) : Int :=
  let start : Nat := 2870177450012600261
  let seed := (seeds.foldl mixed start + (seeds.length ^^^ (start ^^^ 3527539))) % 2 ^ 64
  if seed = 2 ^ 64 - 1 then 1546275796 else (seed : Nat)

/-- The seed of a part of a key. -/
def partSeed? : KeyPart → Option Int
  | .text .. => none
  | .int n => (Number.int n).residue?
  | .decimal d => (Number.decimal d).residue?

mutual

/-- The seed of a payload. -/
def seed? : Payload → Option Int
  | .boolean b => some b.toNat
  | .number n => n.residue?
  | .text s => if s = "" then some 0 else none
  | .bytes bs => if bs = [] then some 0 else none
  | .tuple items => (seeds? items).map mixedSeed
  | .key k => do mixedSeed [← partSeed? k.partition, ← partSeed? k.sort]
  | _ => none

/-- The seeds of payloads. -/
def seeds? : List Payload → Option (List Int)
  | [] => some []
  | p :: rest => do return (← seed? p) :: (← seeds? rest)

end

/-! ## Tables -/

/-- A table: its size, its members that have places, and how many members there are in all. -/
structure Table where
  size : Nat
  placed : List (Nat × Payload)
  count : Nat

namespace Table

/-- The table for a number of members, without any. -/
def sized (count : Nat) : Table :=
  ⟨max 8 (2 ^ (Nat.log2 count + 1)), [], 0⟩

/-- A place has a member. -/
def isTaken (t : Table) (place : Nat) : Bool :=
  t.placed.any fun e => e.1 == place

/-- The first free place of runs of places, of which one starts at a place and the next ones depend on what
is left of a seed. A run near the end of the table has one place only. -/
def freePlace (t : Table) : Nat → Nat → Nat → Nat
  | 0, start, _ => start
  | fuel + 1, start, rest =>
    let run := if start + 9 < t.size then 10 else 1
    match ((List.range run).map (start + ·)).find? fun place => !t.isTaken place with
    | some place => place
    | none => freePlace t fuel ((5 * start + 1 + rest / 32) % t.size) (rest / 32)

/-- The table with a member put in its place. -/
def put (t : Table) (seed : Int) (p : Payload) : Table :=
  let rest := (seed % 2 ^ 64).toNat
  { t with placed := (t.freePlace (t.size + 14) (rest % t.size) rest, p) :: t.placed }

/-- The members that have places, in the order of these. -/
def members (t : Table) : List Payload :=
  (t.placed.mergeSort fun e f => e.1 ≤ f.1).map Prod.snd

/-- The table with a member put in its place, if it has one. -/
def place (t : Table) (p : Payload) : Table :=
  match p.seed? with
  | some seed => t.put seed p
  | none => t

/-- The table with one more member. A table that is three fifths full is too full. -/
def add (t : Table) (p : Payload) : Table :=
  let u := { t.place p with count := t.count + 1 }
  if u.count * 5 < (u.size - 1) * 3 then u
  else { u.members.foldl place (sized (4 * u.count)) with count := u.count }

end Table

/-! ## Visiting -/

/-- Payloads without those that equal an earlier one. -/
def distinct (ps : List Payload) : List Payload :=
  ps.foldl (fun found p => if found.any (sameName p) then found else found ++ [p]) []

/-- A payload is a text. -/
def isText : Payload → Bool
  | .text _ => true
  | _ => false

/-- The members of a set in the order in which it visits them, as far as that can be known: texts before
all else, and what has a seed by its place. The set is made of the members of a list, or of the keys of a
mapping, whose number is known before. -/
def visited (container : Payload) (members : List Payload) : List Payload :=
  let ps := distinct members
  let (texts, others) := ps.partition isText
  if others.all fun p => p.seed?.isSome then
    let start := match container with
      | .mapping entries => if 5 ≤ entries.length then Table.sized (2 * entries.length) else .sized 0
      | _ => .sized 0
    texts ++ ((ps.foldl Table.add start).members.filter fun p => !p.isText)
  else texts ++ others

end Payload

end Amend
