import Amend.Text.Case
import Amend.Text.CharClass
import Amend.Power

/-!
# Text patterns

A pattern is built from tests of one character and from conditions on a place in a text, by sequence,
choice and repetition. Parts of it can be numbered groups, and later parts can refer to what a group has
taken. Switches that are set for a whole pattern or for a part of it say how characters are compared and
where lines end.

`Regex.width` bounds how many characters a pattern can take, which is what looking back needs to know.
How a pattern is matched is in `Amend.Regex.Search`, and how it is written in `Amend.Regex.Reader`.
-/

namespace Amend

namespace Regex

/-! ## Switches -/

/-- The switches of a pattern, or of a part of it. -/
structure Flags where
  /-- Letters match without regard to case. -/
  ignoreCase : Bool := false
  /-- Lines inside the text have a start and an end too. -/
  multiLine : Bool := false
  /-- The dot matches line feeds too. -/
  dotAll : Bool := false
  /-- White space and comments in the pattern are for its reader alone. -/
  verbose : Bool := false
  /-- Classes and letters are those of ASCII. -/
  ascii : Bool := false
  /-- Classes and letters are those of all scripts, as they are anyway unless `ascii` is set. -/
  unicode : Bool := false
  /-- Nothing may be repeated. -/
  template : Bool := false
  deriving DecidableEq, Repr

namespace Flags

/-- The switches that are set in either. -/
def union (f g : Flags) : Flags where
  ignoreCase := f.ignoreCase || g.ignoreCase
  multiLine := f.multiLine || g.multiLine
  dotAll := f.dotAll || g.dotAll
  verbose := f.verbose || g.verbose
  ascii := f.ascii || g.ascii
  unicode := f.unicode || g.unicode
  template := f.template || g.template

/-- The switches that are set in the first and not in the second. -/
def without (f g : Flags) : Flags where
  ignoreCase := f.ignoreCase && !g.ignoreCase
  multiLine := f.multiLine && !g.multiLine
  dotAll := f.dotAll && !g.dotAll
  verbose := f.verbose && !g.verbose
  ascii := f.ascii && !g.ascii
  unicode := f.unicode && !g.unicode
  template := f.template && !g.template

/-- The switches that are set in both. -/
def common (f g : Flags) : Flags :=
  f.without (f.without g)

/-- The two switches that choose a set of letters, of which one at most can be in force. -/
def alphabets : Flags := { ascii := true, unicode := true }

/-- The switches in force in a part of a pattern for which some are set and others cleared. -/
def within (f added removed : Flags) : Flags :=
  let kept := if added.common alphabets = {} then f else f.without alphabets
  (kept.union added).without removed

end Flags

/-! ## Tests of one character

Characters in a pattern are given by code points, since an escape can give a code point that is no
character. Such a one never matches.
-/

/-- A part of a character class. -/
inductive ClassItem where
  | literal (code : Nat)
  | range (first last : Nat)
  | digit (negated : Bool)
  | word (negated : Bool)
  | blank (negated : Bool)
  deriving DecidableEq, Repr

/-- What a pattern asks of one character. -/
inductive CharTest where
  | literal (code : Nat) (negated : Bool)
  /-- Anything but a line feed. -/
  | any
  /-- A character that some part of a class has, or that no part has. -/
  | set (items : List ClassItem) (negated : Bool)
  deriving DecidableEq, Repr

/-! ## Conditions on a place -/

/-- A condition on a place in a text. -/
inductive Anchor where
  | lineStart
  | lineEnd
  | textStart
  | textEnd
  /-- A place with a word character on just one side, or any other place; the only place of an empty text
  is neither. -/
  | wordEdge (negated : Bool)
  deriving DecidableEq, Repr

/-! ## Patterns -/

/-- How a repetition chooses: as many as possible first, as few as possible first, or as many as possible
and no fewer. -/
inductive Greed where
  | greedy
  | lazy
  | possessive
  deriving DecidableEq, Repr

/-- How many characters something takes, at least and at most. -/
structure Width where
  least : Nat
  most : Nat
  deriving DecidableEq, Repr

/-- Which way a condition looks: ahead, or back over as many characters as its pattern takes. -/
inductive Direction where
  | ahead
  | back (width : Width)
  deriving DecidableEq, Repr

end Regex

/-- A text pattern. -/
inductive Regex where
  | empty
  | one (test : Regex.CharTest)
  | anchor (a : Regex.Anchor)
  | seq (first second : Regex)
  | alt (first second : Regex)
  /-- At least `least` times, and at most `most` times if that is given. -/
  | times (r : Regex) (least : Nat) (most : Option Nat) (greed : Regex.Greed)
  /-- A group, under a number that no other group has. -/
  | group (number : Nat) (r : Regex)
  /-- A part for which switches are set and cleared. -/
  | scoped (added removed : Regex.Flags) (r : Regex)
  /-- A part that keeps to the first way in which it matches. -/
  | atomic (r : Regex)
  /-- A condition that there is a match, or none, from here on or up to here. -/
  | look (direction : Regex.Direction) (negated : Bool) (r : Regex)
  /-- What a group has taken, once more. -/
  | again (number : Nat)
  /-- One of two patterns, by whether a group has taken anything. -/
  | ifGroup (number : Nat) (yes no : Regex)
  deriving Repr, Inhabited

namespace Regex

/-- Patterns one after another. -/
def ofList : List Regex → Regex
  | [] => .empty
  | [r] => r
  | r :: rest => .seq r (ofList rest)

/-- Patterns to choose from, in order. -/
def ofAlternatives : List Regex → Regex
  | [] => .empty
  | [r] => r
  | r :: rest => .alt r (ofAlternatives rest)

/-! ## Widths -/

namespace Width

/-- Widths are not told apart from here on. -/
def limit : Nat := 2 ^ 64

/-- A width that is at most the limit. -/
def capped (w : Width) : Width :=
  ⟨min w.least limit, min w.most limit⟩

/-- The width of one thing after another. -/
def add (v w : Width) : Width :=
  capped ⟨v.least + w.least, v.most + w.most⟩

/-- The width of one thing or another. -/
def either (v w : Width) : Width :=
  ⟨min v.least w.least, max v.most w.most⟩

/-- The width of a repetition. -/
def times (w : Width) (least : Nat) (most : Option Nat) : Width :=
  let longest := match most with
    | some n => w.most * n
    | none => if w.most = 0 then 0 else limit
  capped ⟨w.least * least, longest⟩

end Width

/-- How many characters a pattern takes, given that of the groups it refers to. -/
def width (groups : Nat → Width) : Regex → Width
  | .empty | .anchor _ | .look .. => ⟨0, 0⟩
  | .one _ => ⟨1, 1⟩
  | .seq r s => (r.width groups).add (s.width groups)
  | .alt r s => (r.width groups).either (s.width groups)
  | .times r least most _ => (r.width groups).times least most
  | .group _ r | .scoped _ _ r | .atomic r => r.width groups
  | .again n => groups n
  | .ifGroup _ yes no => (yes.width groups).either (no.width groups)

end Regex

/-- A text pattern that has been read: what it was read from, its switches, and how many groups it has. -/
structure TextPattern where
  source : String
  flags : Regex.Flags
  groups : Nat
  body : Regex

end Amend
