import Amend.Regex.Basic

/-!
# Searching for a pattern

A pattern is tried at each place of a text in turn. From a place it goes on in the ways in which it can
match there, best first, and each way is followed to the end of the whole pattern before the next one is
tried. So a matcher is given what is to come after it, and returns the first spot at which all of that
comes to its end.

A repetition ends, since beyond the least number of rounds none is started where the round before was
started.
-/

namespace Amend.Regex

/-! ## Characters -/

/-- The small letter of a code point, as far as switches know letters. -/
def smallUnder (flags : Flags) (n : Nat) : Nat :=
  if flags.ascii then (if 65 ≤ n ∧ n ≤ 90 then n + 32 else n) else Text.small n

/-- Two code points stand for the same character. -/
def sameUnder (flags : Flags) (m n : Nat) : Bool :=
  if !flags.ignoreCase then m == n
  else if flags.ascii then smallUnder flags m == smallUnder flags n
  else Text.sameLetter m n

/-- A code point stands for a character of a range. -/
def betweenUnder (flags : Flags) (first last n : Nat) : Bool :=
  if !flags.ignoreCase then first ≤ n && n ≤ last
  else if flags.ascii then
    let m := smallUnder flags n
    -- a range that goes beyond the first plane has the small letters of all its capitals
    let k := if 0x10000 ≤ last then Text.capital m else if 97 ≤ m ∧ m ≤ 122 then m - 32 else m
    (first ≤ m && m ≤ last) || (first ≤ k && k ≤ last)
  else Text.letterBetween first last n

/-- Whether a part of a class has a character. -/
def ClassItem.has (flags : Flags) (c : Char) : ClassItem → Bool
  | .literal code =>
    -- among other parts, a letter beyond the first plane stands for small letters only
    if code < 0x10000 || !flags.ignoreCase then sameUnder flags code c.toNat
    else code == smallUnder flags c.toNat
  | .range first last => betweenUnder flags first last c.toNat
  | .digit negated => (if flags.ascii then c.isDigit else Text.isDigit c) != negated
  | .word negated => (if flags.ascii then c.isAlphanum || c == '_' else Text.isWord c) != negated
  | .blank negated =>
    (if flags.ascii then c == ' ' || ('\t' ≤ c && c ≤ '\r') else Text.isBlank c) != negated

/-- Whether a character passes a test. -/
def CharTest.holds (flags : Flags) (c : Char) : CharTest → Bool
  | .literal code negated => sameUnder flags code c.toNat != negated
  | .any => flags.dotAll || c != '\n'
  | .set items negated => items.any (·.has flags c) != negated

/-! ## Places -/

/-- A spot in a text that matching has come to: its position, and for each group that has been entered
or left where that was. -/
structure Spot where
  position : Nat
  starts : List (Nat × Nat)
  ends : List (Nat × Nat)

namespace Spot

/-- The spot at which matching starts. -/
def first (position : Nat) : Spot := ⟨position, [], []⟩

/-- The spot further on. -/
def advance (s : Spot) (count : Nat) : Spot :=
  { s with position := s.position + count }

/-- Positions by number, one of them replaced. -/
def put (number position : Nat) : List (Nat × Nat) → List (Nat × Nat)
  | [] => [(number, position)]
  | e :: rest => if e.1 = number then (number, position) :: rest else e :: put number position rest

/-- The spot with a group entered. -/
def enter (s : Spot) (number : Nat) : Spot :=
  { s with starts := put number s.position s.starts }

/-- The spot with a group left. -/
def leave (s : Spot) (number : Nat) : Spot :=
  { s with ends := put number s.position s.ends }

/-- Where what a group has taken starts and ends, if it has taken anything. -/
def taken? (s : Spot) (number : Nat) : Option (Nat × Nat) :=
  match s.starts.lookup number, s.ends.lookup number with
  | some first, some last => if first ≤ last then some (first, last) else none
  | _, _ => none

end Spot

/-- The character at a position is one that words are made of. -/
def onWord (flags : Flags) (text : Array Char) (position : Nat) : Bool :=
  match text[position]? with
  | some c => (ClassItem.word false).has flags c
  | none => false

/-- The position lies at the start of a text, or after a line feed. -/
def atLineStart (text : Array Char) (position : Nat) : Bool :=
  position == 0 || text[position - 1]? == some '\n'

/-- The position meets a condition. -/
def Anchor.holds (flags : Flags) (text : Array Char) (position : Nat) : Anchor → Bool
  | .lineStart => if flags.multiLine then atLineStart text position else position == 0
  | .lineEnd =>
    position == text.size ||
      (text[position]? == some '\n' && (flags.multiLine || position + 1 == text.size))
  | .textStart => position == 0
  | .textEnd => position == text.size
  | .wordEdge negated =>
    let before := position != 0 && onWord flags text (position - 1)
    text.size != 0 && (before != onWord flags text position) != negated

/-! ## Matchers -/

/-- What remains to be matched: from a spot, the spot at which it ends, if it matches. -/
abbrev Rest := Spot → Option Spot

/-- Matches something before the rest. -/
abbrev Matcher := Rest → Rest

/-- Takes one character that passes a test. -/
def oneMatcher (text : Array Char) (test : Char → Bool) : Matcher := fun rest s =>
  match text[s.position]? with
  | some c => if test c then rest (s.advance 1) else none
  | none => none

/-- How many characters in a row pass a test, up to a limit. -/
def runLength (text : Array Char) (test : Char → Bool) (position : Nat) : Nat → Nat
  | 0 => 0
  | limit + 1 =>
    match text[position]? with
    | some c => if test c then runLength text test (position + 1) limit + 1 else 0
    | none => 0

/-- Tries the rest after a number of characters, then after fewer. -/
def fewer (rest : Rest) (s : Spot) (least : Nat) : Nat → Option Spot
  | 0 => if least = 0 then rest s else none
  | count + 1 =>
    if count + 1 < least then none
    else (rest (s.advance (count + 1))).or (fewer rest s least count)

/-- Tries the rest after `least` characters, then after more. -/
def more (rest : Rest) (s : Spot) (least : Nat) : Nat → Option Spot
  | 0 => rest (s.advance least)
  | count + 1 => (rest (s.advance least)).or (more rest s (least + 1) count)

/-- Takes characters that pass a test. -/
def runMatcher (text : Array Char) (test : Char → Bool) (least : Nat) (most : Option Nat)
    (greed : Greed) : Matcher := fun rest s =>
  let room := text.size - s.position
  let available := runLength text test s.position (min (most.getD room) room)
  if available < least then none
  else match greed with
    | .greedy => fewer rest s least available
    | .lazy => more rest s least (available - least)
    | .possessive => rest (s.advance available)

/-- One more round may be started. -/
def mayRepeat (most : Option Nat) (count : Nat) (last : Option Nat) (s : Spot) : Bool :=
  most.all (count < ·) && last != some s.position

/-- Repeats a matcher as often as possible. Given are how many rounds there have been, and where the last
one was started that did not have to be. -/
def greedyRounds (round : Matcher) (least : Nat) (most : Option Nat) (rest : Rest) :
    Nat → Nat → Option Nat → Rest
  | 0, _, _, s => rest s
  | fuel + 1, count, last, s =>
    if count < least then round (greedyRounds round least most rest fuel (count + 1) last) s
    else
      let again := if mayRepeat most count last s
        then round (greedyRounds round least most rest fuel (count + 1) (some s.position)) s else none
      again.or (rest s)

/-- Repeats a matcher as seldom as possible. -/
def lazyRounds (round : Matcher) (least : Nat) (most : Option Nat) (rest : Rest) :
    Nat → Nat → Option Nat → Rest
  | 0, _, _, s => rest s
  | fuel + 1, count, last, s =>
    if count < least then round (lazyRounds round least most rest fuel (count + 1) last) s
    else (rest s).or <|
      if mayRepeat most count last s
      then round (lazyRounds round least most rest fuel (count + 1) (some s.position)) s else none

/-- Repeats a matcher as often as possible, each round in the first way it matches. -/
def possessiveRounds (round : Matcher) (least : Nat) (most : Option Nat) :
    Nat → Nat → Option Nat → Rest
  | 0, _, _, s => some s
  | fuel + 1, count, last, s =>
    if count < least then (round some s).bind (possessiveRounds round least most fuel (count + 1) last)
    else if mayRepeat most count last s then
      match round some s with
      | some t => possessiveRounds round least most fuel (count + 1) (some s.position) t
      | none => some s
    else some s

/-- Repeats a matcher. Every round but the least number and the last takes a character, so the text bounds
their number. -/
def roundsMatcher (text : Array Char) (round : Matcher) (least : Nat) (most : Option Nat)
    (greed : Greed) : Matcher := fun rest s =>
  let fuel := least + (text.size - s.position) + 2
  match greed with
  | .greedy => greedyRounds round least most rest fuel 0 none s
  | .lazy => lazyRounds round least most rest fuel 0 none s
  | .possessive => (possessiveRounds round least most fuel 0 none s).bind rest

/-- The characters between two positions are the same as those from another position on. -/
def repeatsAt (flags : Flags) (text : Array Char) (first : Nat) (position : Nat) : Nat → Bool
  | 0 => true
  | count + 1 =>
    match text[first]?, text[position]? with
    | some c, some d =>
      (if flags.ignoreCase then smallUnder flags c.toNat == smallUnder flags d.toNat else c == d) &&
        repeatsAt flags text (first + 1) (position + 1) count
    | _, _ => false

/-- The matcher of a pattern in a text, under the switches in force. -/
def matcher (text : Array Char) : Regex → Flags → Matcher
  | .empty, _ => id
  | .one test, flags => oneMatcher text (test.holds flags ·)
  | .anchor a, flags => fun rest s => if a.holds flags text s.position then rest s else none
  | .seq r t, flags => fun rest => r.matcher text flags (t.matcher text flags rest)
  | .alt r t, flags => fun rest s => (r.matcher text flags rest s).or (t.matcher text flags rest s)
  | .times (.one test) least most greed, flags =>
    runMatcher text (test.holds flags ·) least most greed
  | .times r least most greed, flags => roundsMatcher text (r.matcher text flags) least most greed
  | .group n r, flags => fun rest s => r.matcher text flags (fun t => rest (t.leave n)) (s.enter n)
  | .scoped added removed r, flags => r.matcher text (flags.within added removed)
  | .atomic r, flags => fun rest s => (r.matcher text flags some s).bind rest
  | .look direction negated r, flags => fun rest s =>
    let back := match direction with
      | .ahead => 0
      | .back width => width.least
    let found := if back ≤ s.position
      then r.matcher text flags some { s with position := s.position - back } else none
    match found with
    | some t => if negated then none else rest { t with position := s.position }
    | none => if negated then rest s else none
  | .again n, flags => fun rest s =>
    match s.taken? n with
    | some (first, last) =>
      if repeatsAt flags text first s.position (last - first) then rest (s.advance (last - first))
      else none
    | none => none
  | .ifGroup n yes no, flags => fun rest s =>
    if (s.taken? n).isSome then yes.matcher text flags rest s else no.matcher text flags rest s

/-- The pattern matches from one of the last `count` places of a text before a position. -/
def matchesFrom (start : Spot → Option Spot) (position : Nat) : Nat → Bool
  | 0 => (start (.first position)).isSome
  | count + 1 => (start (.first position)).isSome || matchesFrom start (position + 1) count

end Amend.Regex

namespace Amend

/-- Whether a pattern matches somewhere in a text. -/
def TextPattern.search (p : TextPattern) (s : String) : Bool :=
  let text := s.toList.toArray
  Regex.matchesFrom (p.body.matcher text p.flags some) 0 text.size

end Amend
