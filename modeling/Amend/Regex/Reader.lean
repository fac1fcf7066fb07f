import Amend.Regex.Cursor

/-!
# Reading text patterns

What has been read of a pattern is kept on levels, one for each group that is open, so that every step of
reading looks at the next token alone and takes at least one. A level holds the alternatives that are
complete, and the items of the one that is being read. A group that does nothing but hold items together
is taken apart when its surroundings are complete, since until then it may be repeated as a whole.
-/

namespace Amend.Regex

/-! ## Levels -/

/-- What an open group is. -/
inductive Opening where
  | plain
  | numbered (number : Nat)
  | scoped (added removed : Flags)
  | atomic
  | look (negated : Bool)
  /-- A condition on what lies behind, with the outer count of groups for such conditions. -/
  | lookBack (negated : Bool) (outer : Option Nat)
  | choice (number : Nat)
  deriving DecidableEq

/-- An item of a pattern, or a plain group of items. -/
inductive Part where
  | item (r : Regex)
  | plain (items : List Regex)

/-- A part as one pattern. -/
def Part.regex : Part → Regex
  | .item r => r
  | .plain items => ofList items

/-- A part as items of what surrounds it. -/
def Part.items : Part → List Regex
  | .item r => [r]
  | .plain items => items

/-- One level of a pattern: whether white space counts, the alternatives that are complete, last first,
and the parts of the current one, last first. -/
structure Level where
  verbose : Bool
  branches : List (List Regex)
  parts : List Part

namespace Level

/-- A level on which nothing has been read. -/
def start (verbose : Bool) : Level := ⟨verbose, [], []⟩

/-- The level with one more part. -/
def add (l : Level) (p : Part) : Level :=
  { l with parts := p :: l.parts }

/-- The items of the current alternative. -/
def current (l : Level) : List Regex :=
  l.parts.reverse.flatMap Part.items

/-- The level with the current alternative complete. -/
def branch (l : Level) : Level :=
  { l with branches := l.current :: l.branches, parts := [] }

/-- All alternatives of the level. -/
def alternatives (l : Level) : List (List Regex) :=
  l.branch.branches.reverse

end Level

/-- How far reading has come: the level being read, and the open groups around it with the positions of
their parentheses, innermost first. -/
structure Progress where
  level : Level
  outer : List (Opening × Nat × Level)

/-! ## Alternatives -/

/-- Two items are the same test, condition or reference. -/
def sameItem : Regex → Regex → Bool
  | .one s, .one t => s = t
  | .anchor a, .anchor b => a = b
  | .again m, .again n => m = n
  | _, _ => false

/-- The item with which all alternatives start, if there is one. -/
def sharedStart? : List (List Regex) → Option Regex
  | (r :: _) :: rest =>
    if rest.all fun items => items.head?.any (sameItem r) then some r else none
  | _ => none

/-- Items with which all alternatives start, as many as there are up to a number, and what is left of the
alternatives. -/
def splitStart : Nat → List (List Regex) → List Regex × List (List Regex)
  | 0, branches => ([], branches)
  | fuel + 1, branches =>
    match sharedStart? branches with
    | some r =>
      let (start, left) := splitStart fuel (branches.map List.tail)
      (r :: start, left)
    | none => ([], branches)

/-- The parts of a class that an alternative amounts to, if it is a test of one character. -/
def classOf? : List Regex → Option (List ClassItem)
  | [.one (.literal code false)] => some [.literal code]
  | [.one (.set items false)] => some items
  | _ => none

/-- The items that alternatives amount to. What all of them start with is taken out of them, and tests of
one character are joined to a class. -/
def joinAlternatives : List (List Regex) → List Regex
  | [items] => items
  | branches =>
    let (start, left) := splitStart (branches.headD []).length branches
    match left.mapM classOf? with
    | some classes => start ++ [.one (.set classes.flatten.eraseDups false)]
    | none => start ++ [ofAlternatives (left.map ofList)]

/-- The items of a level that is complete. -/
def Level.items (l : Level) : List Regex :=
  joinAlternatives l.alternatives

namespace Reading

/-! ## Classes -/

/-- A character of a class, or a class in it. -/
def setAtom (t : Token) : Reading ClassItem :=
  match t with
  | .escaped c => escapeInSet c
  | .plain c => return .literal c.toNat

/-- The parts of a class up to its bracket. A hyphen between two characters makes a range of them, and one
before the bracket stands for itself. -/
def setItems (start : Nat) : Nat → List ClassItem → Reading (List ClassItem)
  | 0, items => return items
  | fuel + 1, items => do
    let unended {α : Type} : Reading α := do fail .unendedSet ((← get).position - start)
    match ← next with
    | none => unended
    | some t =>
      if t = .plain ']' ∧ items ≠ [] then return items
      else
        let first ← setAtom t
        if !(← accept '-') then setItems start fuel (items ++ [first])
        else match ← next with
          | none => unended
          | some (.plain ']') => return items ++ [first, .literal '-'.toNat]
          | some u =>
            match first, ← setAtom u with
            | .literal a, .literal b =>
              if b < a then fail (.badRange t.text u.text) (t.length + 1 + u.length)
              else setItems start fuel (items ++ [.range a b])
            | _, _ => fail (.badRange t.text u.text) (t.length + 1 + u.length)

/-- A class after its bracket. A single character is no class. -/
def set : Reading Regex := do
  let start := (← get).position - 1
  let negated ← accept '^'
  let items ← setItems start ((← get).rest.length + 1) []
  match items.eraseDups with
  | [.literal code] => return .one (.literal code negated)
  | items => return .one (.set items negated)

/-! ## Repetitions -/

/-- Numbers of repetitions cannot be so large. -/
def repetitionLimit : Nat := 2 ^ 32 - 1

/-- A number of repetitions, if there are digits. -/
def bound (digits : List Char) : Reading (Option Nat) := do
  if digits.isEmpty then return none
  let n := numberIn 10 digits
  if repetitionLimit ≤ n then throw (.hugeRepetition, none)
  return some n

/-- The bounds of a repetition after its brace, or nothing if there are none and the brace stands for
itself. -/
def bounds : Reading (Option (Nat × Option Nat)) := do
  let start ← get
  if (← peek) = some (.plain '\x7d') then return none
  let low ← runAll Char.isDigit
  let high ← if ← accept ',' then runAll Char.isDigit else pure low
  if !(← accept '\x7d') then
    goBack start
    return none
  let least ← bound low
  let most ← bound high
  if most.any (· < least.getD 0) then fail .reversedBounds ((← get).position - start.position)
  return some (least.getD 0, most)

/-- What follows bounds and says how a repetition chooses. -/
def greed : Reading Greed := do
  if ← accept '?' then return .lazy
  else if ← accept '+' then return .possessive
  else return .greedy

/-- Parts of which the last is repeated. A condition on a place cannot be, and nor can a repetition. The
given position is that after the mark of the repetition. -/
def repeatLast (after : Nat) (least : Nat) (most : Option Nat) : List Part → Reading (List Part)
  | [] => do fail .nothingToRepeat ((← get).position - after + 1)
  | .item (.anchor _) :: _ => do fail .nothingToRepeat ((← get).position - after + 1)
  | .item (.times ..) :: _ => do fail .repeatedTwice ((← get).position - after + 1)
  | p :: rest => do return .item (.times p.regex least most (← greed)) :: rest

/-- A level after a mark of repetition. -/
def repetition (mark : Char) (l : Level) : Reading Level := do
  let after := (← get).position
  let range ← match mark with
    | '*' => pure (some (0, none))
    | '+' => pure (some (1, none))
    | '?' => pure (some (0, some 1))
    | _ => bounds
  match range with
  | some (least, most) => return { l with parts := ← repeatLast after least most l.parts }
  | none => return l.add (.item (.one (.literal mark.toNat false)))

/-! ## Switches -/

/-- The switch that a letter stands for. The letter `L` stands for one that text patterns do not have. -/
def flag? : Char → Option (Option Flags)
  | 'i' => some (some { ignoreCase := true })
  | 'm' => some (some { multiLine := true })
  | 's' => some (some { dotAll := true })
  | 'x' => some (some { verbose := true })
  | 'a' => some (some { ascii := true })
  | 'u' => some (some { unicode := true })
  | 't' => some (some { template := true })
  | 'L' => some none
  | _ => none

/-- The letter of a switch, if a token is one. -/
def letterOf? : Token → Option (Option Flags)
  | .plain c => flag? c
  | .escaped _ => none

/-- Stops at a token that is no switch, where there should be one or one of some marks. -/
def notFlag {α : Type} (t : Token) (marks : String) : Reading α :=
  match t with
  | .plain c => if Text.isLetter c then fail .unknownFlag 1 else fail (.missingMark marks) 1
  | .escaped _ => fail (.missingMark marks) 2

/-- The switches that are set, from the first letter on, and the mark that ends them. -/
def addedFlags : Nat → Flags → Option Flags → Reading (Flags × Char)
  | 0, added, _ => return (added, ')')
  | fuel + 1, added, letter => do
    match letter with
    | none => fail .localeFlag
    | some f =>
      let now := added.union f
      if f.common Flags.alphabets ≠ {} ∧ now.common Flags.alphabets ≠ f then fail .incompatibleFlags
      match ← next with
      | none => fail (.missingMark "-, : or )")
      | some (.plain ')') => return (now, ')')
      | some (.plain '-') => return (now, '-')
      | some (.plain ':') => return (now, ':')
      | some t =>
        match letterOf? t with
        | some letter => addedFlags fuel now letter
        | none => notFlag t "-, : or )"

/-- The switches that are cleared, from the first letter on, up to the colon. -/
def removedFlags : Nat → Flags → Option Flags → Reading Flags
  | 0, removed, _ => return removed
  | fuel + 1, removed, letter => do
    match letter with
    | none => fail .clearedAlphabet
    | some f =>
      if f.common Flags.alphabets ≠ {} then fail .clearedAlphabet
      let now := removed.union f
      match ← next with
      | none => fail (.missingMark ":")
      | some (.plain ':') => return now
      | some t =>
        match letterOf? t with
        | some letter => removedFlags fuel now letter
        | none => notFlag t ":"

/-- The switches of a group that sets and clears them, or those of the whole pattern. -/
inductive Switches where
  | whole (added : Flags)
  | scoped (added removed : Flags)

/-- Switches, given the first token. -/
def switches (first : Token) : Reading Switches := do
  let fuel := (← get).rest.length + 1
  let (added, mark) ← match letterOf? first with
    | some letter => addedFlags fuel {} letter
    | none => pure ({}, '-')
  if mark = ')' then return .whole added
  if added.template then fail .scopedTemplate 1
  if mark = ':' then return .scoped added {}
  let removed ← match ← next with
    | none => fail (.missingMark "flag")
    | some t =>
      match letterOf? t with
      | some letter => removedFlags fuel {} letter
      | none => notFlag t "flag"
  if removed.template then fail .clearedTemplate 1
  if added.common removed ≠ {} then fail .setAndCleared 1
  return .scoped added removed

/-! ## Groups -/

/-- Changes the groups of the pattern. -/
def modifyGroups (f : Groups → Groups) : Reading Unit :=
  modify fun s => { s with groups := f s.groups }

/-- A name of a group, which must be an identifier. -/
def groupName (terminator : Char) : Reading String := do
  let name ← name terminator "group"
  if Text.isIdentifier name then return name
  else fail (.badGroupName name) (name.length + 1)

/-- The number of a new group, which may have a name. -/
def newGroup (name? : Option String) : Reading Nat := do
  let groups := (← get).groups
  let number := groups.count + 1
  if let some name := name? then
    if let some first := groups.named? name then
      fail (.repeatedGroup name number first) (name.length + 1)
    modifyGroups fun g => { g with named := g.named ++ [(name, number)] }
  modifyGroups Groups.opened
  return number

/-- A reference to a group by its name. -/
def namedReference : Reading Regex := do
  let name ← groupName ')'
  match (← get).groups.named? name with
  | some number => reference number (name.length + 1)
  | none => fail (.unknownGroup name) (name.length + 1)

/-- The group that a choice depends on, by its name or number. A number may be that of a later group. -/
def choiceGroup : Reading Nat := do
  let name ← name ')' "group"
  let back := name.length + 1
  let number ←
    if Text.isIdentifier name then
      match (← get).groups.named? name with
      | some number => pure number
      | none => fail (.unknownGroup name) back
    else match Text.intOfText? name with
      | some (.ofNat 0) => fail .groupZero back
      | some (.ofNat n) => do
        if 2 ^ 30 ≤ n then fail (.noSuchGroup n) back
        let start := (← get).position - back
        modifyGroups fun g =>
          if (g.awaited.lookup n).isSome then g else { g with awaited := g.awaited ++ [(n, start)] }
        pure n
      | _ => fail (.badGroupName name) back
  let groups := (← get).groups
  if groups.behind.isSome && !groups.isClosed number then fail .openGroup
  if groups.behind.any (· < number) then fail .groupOfCondition
  return number

/-- Passes over a comment up to its parenthesis. -/
def comment (start : Nat) : Nat → Reading Unit
  | 0 => return
  | fuel + 1 => do
    if (← peek).isNone then fail .unendedComment ((← get).position - start)
    if (← next) ≠ some (.plain ')') then comment start fuel

/-- Passes over a comment up to the end of its line. -/
def lineComment : Nat → Reading Unit
  | 0 => return
  | fuel + 1 => do
    match ← next with
    | none | some (.plain '\n') => return
    | some _ => lineComment fuel

/-- The start of a condition on what lies behind. Inside it, groups that it holds are out of reach. -/
def lookBack (negated : Bool) : Reading Opening := do
  let outer := (← get).groups.behind
  modifyGroups fun g => { g with behind := some (outer.getD g.count) }
  return .lookBack negated outer

/-- What a parenthesis at a position starts: a group, one item, or nothing that is matched. -/
inductive Heading where
  | opens (o : Opening)
  | item (r : Regex)
  | nothing

/-- The heading of a parenthesis with the mark `?P`. -/
def namedHeading : Reading Heading := do
  if ← accept '<' then
    let name ← groupName '>'
    return .opens (.numbered (← newGroup (some name)))
  else if ← accept '=' then return .item (← namedReference)
  else match ← next with
    | none => fail .unexpectedEnd
    | some t => fail (.unknownExtension ("P" ++ t.text)) (t.length + 2)

/-- The heading of a parenthesis with the mark `?<`. -/
def behindHeading : Reading Heading := do
  match ← next with
  | none => fail .unexpectedEnd
  | some (.plain '=') => return .opens (← lookBack false)
  | some (.plain '!') => return .opens (← lookBack true)
  | some t => fail (.unknownExtension ("<" ++ t.text)) (t.length + 2)

/-- The heading of a parenthesis with switches. Those for the whole pattern stand before all else. -/
def switchesHeading (start : Nat) (atStart : Bool) (first : Token) : Reading Heading := do
  match ← switches first with
  | .scoped added removed => return .opens (.scoped added removed)
  | .whole added =>
    modify fun s => { s with flags := s.flags.union added }
    if atStart then return .nothing else fail .lateFlags ((← get).position - start)

/-- The heading of a parenthesis at a position. -/
def heading (start : Nat) (atStart : Bool) : Reading Heading := do
  if !(← accept '?') then return .opens (.numbered (← newGroup none))
  else match ← next with
    | none => fail .unexpectedEnd
    | some (.plain 'P') => namedHeading
    | some (.plain ':') => return .opens .plain
    | some (.plain '#') =>
      comment start ((← get).rest.length + 1)
      return .nothing
    | some (.plain '=') => return .opens (.look false)
    | some (.plain '!') => return .opens (.look true)
    | some (.plain '<') => behindHeading
    | some (.plain '(') => return .opens (.choice (← choiceGroup))
    | some (.plain '>') => return .opens .atomic
    | some t =>
      if t = .plain '-' ∨ (letterOf? t).isSome then switchesHeading start atStart t
      else fail (.unknownExtension t.text) (t.length + 1)

/-- What a group amounts to when its level is complete. -/
def close (o : Opening) (l : Level) : Reading Part := do
  let r := ofList l.items
  let width := r.width (← get).groups.width
  match o with
  | .plain => return .plain l.items
  | .numbered n =>
    modifyGroups fun g => g.closed n width
    return .item (.group n r)
  | .scoped added removed => return .item (.scoped added removed r)
  | .atomic => return .item (.atomic r)
  | .look negated => return .item (.look .ahead negated r)
  | .lookBack negated outer =>
    modifyGroups fun g => { g with behind := outer }
    return .item (.look (.back width) negated r)
  | .choice n =>
    match l.alternatives.map ofList with
    | [yes, no] => return .item (.ifGroup n yes no)
    | _ => return .item (.ifGroup n r .empty)

/-! ## Whole patterns -/

/-- Whether white space and comments are passed over inside a group. -/
def Opening.verbose (o : Opening) (around : Bool) : Bool :=
  match o with
  | .scoped added removed => (around || added.verbose) && !removed.verbose
  | _ => around

/-- What has been read after a parenthesis. -/
def parenthesis (p : Progress) : Reading Progress := do
  let start := (← get).position - 1
  let atStart := p.outer.isEmpty && p.level.branches.isEmpty && p.level.parts.isEmpty
  match ← heading start atStart with
  | .opens o => return ⟨Level.start (Opening.verbose o p.level.verbose), (o, start, p.level) :: p.outer⟩
  | .item r => return { p with level := p.level.add (.item r) }
  | .nothing =>
    if atStart then return { p with level := { p.level with verbose := (← get).flags.verbose } } else return p

/-- What has been read after a bar. A choice by a group has two branches at most. -/
def bar (p : Progress) : Reading Progress := do
  let level := p.level.branch
  match p.outer with
  | [] =>
    skip (.plain '|')
    return { p with level := { level with verbose := (← get).flags.verbose } }
  | (.choice _, _) :: _ =>
    if !p.level.branches.isEmpty then fail .manyBranches
    skip (.plain '|')
    return { p with level }
  | _ =>
    skip (.plain '|')
    return { p with level }

/-- The level after a character that is no bar and no parenthesis. -/
def character (c : Char) (l : Level) : Reading Level := do
  if l.verbose ∧ c ∈ [' ', '\t', '\n', '\r', '\x0b', '\x0c'] then return l
  else if l.verbose ∧ c = '#' then
    lineComment ((← get).rest.length + 1)
    return l
  else match c with
    | '[' => return l.add (.item (← set))
    | '.' => return l.add (.item (.one .any))
    | '^' => return l.add (.item (.anchor .lineStart))
    | '$' => return l.add (.item (.anchor .lineEnd))
    | '*' | '+' | '?' | '\x7b' => repetition c l
    | c => return l.add (.item (.one (.literal c.toNat false)))

/-- Reads a pattern up to its end, or to a parenthesis that closes no group. -/
def parts : Nat → Progress → Reading Level
  | 0, p => return p.level
  | fuel + 1, p => do
    match ← peek, p.outer with
    | none, [] | some (.plain ')'), [] => return p.level
    | none, (_, start, _) :: _ => throw (.unendedGroup, some start)
    | some (.plain ')'), (o, _, l) :: outer =>
      skip (.plain ')')
      parts fuel ⟨l.add (← close o p.level), outer⟩
    | some (.plain '|'), _ => parts fuel (← bar p)
    | some (.plain '('), _ =>
      skip (.plain '(')
      parts fuel (← parenthesis p)
    | some (.plain c), _ =>
      skip (.plain c)
      parts fuel { p with level := ← character c p.level }
    | some (.escaped c), _ =>
      skip (.escaped c)
      parts fuel { p with level := p.level.add (.item (← escape c)) }

end Reading

/-- The first part of a pattern that cannot be matched, though it can be read: a repetition where none may
be, or a condition on what lies behind that does not say how far to go back. -/
def flaw? (template : Bool) : Regex → Option Flaw
  | .empty | .one _ | .anchor _ | .again _ => none
  | .seq r s | .alt r s | .ifGroup _ r s => (r.flaw? template).or (s.flaw? template)
  | .times r _ _ greed => if template then some (.templateRepetition greed) else r.flaw? template
  | .group _ r | .scoped _ _ r | .atomic r => r.flaw? template
  | .look .ahead _ r => r.flaw? template
  | .look (.back width) _ r =>
    if 2 ^ 32 ≤ width.least then some .farLookBehind
    else if width.least ≠ width.most then some .variableLookBehind
    else r.flaw? template

namespace Reading

/-- Reads a whole pattern. -/
def pattern (source : String) : Reading TextPattern := do
  checked
  let level ← parts (source.length + 1) ⟨Level.start false, []⟩
  let ⟨_, _, flags, groups⟩ ← get
  if flags.ascii && flags.unicode then throw (.twoAlphabets, none)
  if (← peek).isSome then fail .unopenedGroup
  if let some (number, position) := groups.awaited.find? (groups.count < ·.1) then
    throw (.noSuchGroup number, some position)
  let body := ofList level.items
  if let some flaw := body.flaw? flags.template then throw (flaw, none)
  return { source, flags, groups := groups.count, body }

end Reading

end Amend.Regex

namespace Amend

/-- The pattern that a text describes. -/
def TextPattern.ofText (source : String) : Except PatternError TextPattern :=
  match (Regex.Reading.pattern source).run' ⟨source.toList, 0, {}, .empty⟩ with
  | .ok p => .ok p
  | .error (flaw, position) => .error { source, flaw, position }

end Amend
