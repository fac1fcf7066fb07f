import Amend.Regex.Error
import Amend.Text.Identifier
import Amend.Text.Integer
import Amend.Text.Names

/-!
# Reading along a pattern

A pattern is read token by token: a token is a character, or a backslash with the character after it. The
reader carries what later tokens depend on, which is the groups so far and the switches of the whole
pattern. An error is raised as soon as it is seen, with the position where reading stands or one a little
before it; a backslash at the very end is seen as soon as it is the next token.
-/

namespace Amend.Regex

/-- A token of a pattern. -/
inductive Token where
  | plain (c : Char)
  | escaped (c : Char)
  deriving DecidableEq

/-- The characters of a token. -/
def Token.text : Token → String
  | .plain c => String.singleton c
  | .escaped c => String.ofList ['\\', c]

/-- How many characters a token has. -/
def Token.length : Token → Nat
  | .plain _ => 1
  | .escaped _ => 2

/-- The groups of a pattern, as far as it has been read. -/
structure Groups where
  /-- The numbers of groups that have names. -/
  named : List (String × Nat)
  /-- For each group how many characters it takes, once it has been read to its end. -/
  widths : List (Option Width)
  /-- Inside a condition on what lies behind: how many groups there were before it. -/
  behind : Option Nat
  /-- Groups that conditions refer to, and where they first do. -/
  awaited : List (Nat × Nat)

namespace Groups

/-- No groups. -/
def empty : Groups := ⟨[], [], none, []⟩

/-- How many groups there are. -/
def count (g : Groups) : Nat := g.widths.length

/-- A group has been read to its end. -/
def isClosed (g : Groups) (number : Nat) : Bool :=
  number != 0 && (g.widths[number - 1]?.join).isSome

/-- How many characters a group takes. -/
def width (g : Groups) (number : Nat) : Width :=
  (g.widths[number - 1]?.join).getD ⟨0, 0⟩

/-- The number of a group that has a name. -/
def named? (g : Groups) (name : String) : Option Nat :=
  g.named.lookup name

/-- The groups with one more, which is open. -/
def opened (g : Groups) : Groups :=
  { g with widths := g.widths ++ [none] }

/-- The groups with one of them read to its end. -/
def closed (g : Groups) (number : Nat) (w : Width) : Groups :=
  { g with widths := g.widths.set (number - 1) (some w) }

end Groups

/-- How far a pattern has been read. -/
structure Cursor where
  rest : List Char
  position : Nat
  flags : Flags
  groups : Groups

/-- Reading a part of a pattern, which may come upon a flaw. -/
abbrev Reading := StateT Cursor (Except (Flaw × Option Nat))

namespace Reading

/-- Stops at a flaw that lies some characters back. -/
def fail {α : Type} (flaw : Flaw) (back : Nat := 0) : Reading α := do
  throw (flaw, some ((← get).position - back))

/-- The next token. -/
def peek : Reading (Option Token) := do
  match (← get).rest with
  | '\\' :: c :: _ => return some (.escaped c)
  | c :: _ => return some (.plain c)
  | [] => return none

/-- The next token is no lone backslash. -/
def checked : Reading Unit := do
  if (← get).rest = ['\\'] then fail .loneBackslash

/-- Passes over a token. -/
def skip (t : Token) : Reading Unit := do
  modify fun s => { s with rest := s.rest.drop t.length, position := s.position + t.length }
  checked

/-- The next token, which is passed over. -/
def next : Reading (Option Token) := do
  let t ← peek
  match t with
  | some t => skip t
  | none => pure ()
  return t

/-- Passes over a character, if it is next. -/
def accept (c : Char) : Reading Bool := do
  if (← peek) = some (.plain c) then
    skip (.plain c)
    return true
  else return false

/-- Goes back to where reading stood before. -/
def goBack (s : Cursor) : Reading Unit :=
  modify fun now => { now with rest := s.rest, position := s.position }

/-- Characters that pass a test, up to a number of them. -/
def run (test : Char → Bool) : Nat → Reading (List Char)
  | 0 => return []
  | count + 1 => do
    match ← peek with
    | some (.plain c) =>
      if test c then
        skip (.plain c)
        return c :: (← run test count)
      else return []
    | _ => return []

/-- All characters that pass a test. -/
def runAll (test : Char → Bool) : Reading (List Char) := do
  run test (← get).rest.length

/-- The text up to a character that ends it, given the text so far and a bound on its length. -/
def untilMark (terminator : Char) (kind : String) : Nat → String → Reading String
  | 0, name => return name
  | fuel + 1, name => do
    match ← next with
    | none => if name.isEmpty then fail (.missingName kind) else fail (.unendedName terminator) name.length
    | some t =>
      if t ≠ .plain terminator then untilMark terminator kind fuel (name ++ t.text)
      else if name.isEmpty then fail (.missingName kind) 1
      else return name

/-- A name, and the character that ends it. -/
def name (terminator : Char) (kind : String) : Reading String := do
  untilMark terminator kind ((← get).rest.length + 1) ""

/-! ## Escapes -/

/-- The value of a hexadecimal digit. -/
def hexValue? (c : Char) : Option Nat :=
  if c.isDigit then some (c.toNat - 48)
  else if 'a' ≤ c ∧ c ≤ 'f' then some (c.toNat - 87)
  else if 'A' ≤ c ∧ c ≤ 'F' then some (c.toNat - 55)
  else none

/-- True of the digits of octal numbers. -/
def isOctal (c : Char) : Bool :=
  '0' ≤ c && c ≤ '7'

/-- The number that digits are in a base. -/
def numberIn (base : Nat) (digits : List Char) : Nat :=
  digits.foldl (fun n d => base * n + (hexValue? d).getD 0) 0

/-- The text of an escape. -/
def escapeText (cs : List Char) : String :=
  String.ofList ('\\' :: cs)

/-- The code point that a number of hexadecimal digits gives, after the letter of their escape. -/
def hexEscape (letter : Char) (width : Nat) : Reading Nat := do
  let ds ← run (fun c => (hexValue? c).isSome) width
  let text := escapeText (letter :: ds)
  if ds.length < width then fail (.incompleteEscape text) text.length
  let code := numberIn 16 ds
  if 0x10FFFF < code then fail (.badEscape text) text.length
  return code

/-- The code point of a character given by its name in braces. -/
def namedEscape : Reading Nat := do
  if !(← accept '\x7b') then fail .unbracedName
  let name ← name '\x7d' "character"
  match Text.codeNamed? name with
  | some code => return code
  | none => fail (.undefinedCharacter name) (name.length + 4)

/-- The code point that octal digits give. -/
def octalCode (digits : List Char) : Reading Nat := do
  let code := numberIn 8 digits
  if 0o377 < code then fail (.octalTooLarge (escapeText digits)) (digits.length + 1)
  return code

/-- The class that a letter after a backslash stands for. -/
def classEscape? : Char → Option ClassItem
  | 'd' => some (.digit false)
  | 'D' => some (.digit true)
  | 'w' => some (.word false)
  | 'W' => some (.word true)
  | 's' => some (.blank false)
  | 'S' => some (.blank true)
  | _ => none

/-- The code point of the control character that a letter after a backslash stands for. -/
def controlEscape? : Char → Option Nat
  | 'a' => some 0x07
  | 'b' => some 0x08
  | 't' => some 0x09
  | 'n' => some 0x0A
  | 'v' => some 0x0B
  | 'f' => some 0x0C
  | 'r' => some 0x0D
  | _ => none

/-- The condition that a letter after a backslash stands for. -/
def anchorEscape? : Char → Option Anchor
  | 'A' => some .textStart
  | 'Z' => some .textEnd
  | 'b' => some (.wordEdge false)
  | 'B' => some (.wordEdge true)
  | _ => none

/-- The code point that an escape gives which is no class, no condition and no number. Any character but
ASCII letters and digits stands for itself. -/
def codeEscape (c : Char) : Reading Nat := do
  match controlEscape? c with
  | some code => return code
  | none =>
    match c with
    | 'x' => hexEscape c 2
    | 'u' => hexEscape c 4
    | 'U' => hexEscape c 8
    | 'N' => namedEscape
    | c => if c.isAlphanum then fail (.badEscape (escapeText [c])) 2 else return c.toNat

/-- An escape inside a class. Up to three octal digits give a code point. -/
def escapeInSet (c : Char) : Reading ClassItem := do
  match classEscape? c with
  | some item => return item
  | none =>
    if isOctal c then return .literal (← octalCode (c :: (← run isOctal 2)))
    else return .literal (← codeEscape c)

/-- A reference to a group, which must have been read to its end. -/
def reference (number back : Nat) : Reading Regex := do
  let groups := (← get).groups
  if !groups.isClosed number then fail .openGroup back
  if groups.behind.any (· < number) then fail .groupOfCondition
  return .again number

/-- An escape that starts with a digit other than zero: with two more octal digits it gives a code point,
and otherwise one or two digits refer to a group. -/
def numberEscape (c : Char) : Reading Regex := do
  let groupOf (digits : List Char) : Reading Regex := do
    let number := numberIn 10 digits
    if number ≤ (← get).groups.count then reference number (digits.length + 1)
    else fail (.noSuchGroup number) digits.length
  match ← run Char.isDigit 1 with
  | [d] =>
    if isOctal c && isOctal d then
      match ← run isOctal 1 with
      | [e] => return .one (.literal (← octalCode [c, d, e]) false)
      | _ => groupOf [c, d]
    else groupOf [c, d]
  | _ => groupOf [c]

/-- An escape outside of classes. -/
def escape (c : Char) : Reading Regex := do
  match anchorEscape? c, classEscape? c with
  | some a, _ => return .anchor a
  | none, some item => return .one (.set [item] false)
  | none, none =>
    if c = '0' then return .one (.literal (numberIn 8 (← run isOctal 2)) false)
    else if c.isDigit then numberEscape c
    else return .one (.literal (← codeEscape c) false)

end Reading

end Amend.Regex
