import Amend.Regex.Basic
import Amend.Text.Quoted

/-!
# Pattern errors

What can be wrong with a text that should be a pattern. A flaw is a cause, most flaws have a position in
the text, and the wording is in `Regex.Flaw.reason` and `PatternError.message` alone.
-/

namespace Amend

namespace Regex

/-- What keeps a text from being a pattern. -/
inductive Flaw where
  /-- A backslash ends the pattern. -/
  | loneBackslash
  | incompleteEscape (escape : String)
  | badEscape (escape : String)
  | octalTooLarge (escape : String)
  /-- An escape for a character by its name lacks the brace before the name. -/
  | unbracedName
  | undefinedCharacter (name : String)
  /-- The name of a group or character is empty, or is not ended. -/
  | missingName (kind : String)
  | unendedName (terminator : Char)
  /-- A group is referred to inside itself. -/
  | openGroup
  /-- A group is referred to inside the condition that it stands in. -/
  | groupOfCondition
  | noSuchGroup (number : Nat)
  | unknownGroup (name : String)
  | badGroupName (name : String)
  | groupZero
  | repeatedGroup (name : String) (second first : Nat)
  | unendedSet
  | badRange (first last : String)
  | reversedBounds
  | nothingToRepeat
  | repeatedTwice
  /-- A number of repetitions is too large to be kept. -/
  | hugeRepetition
  | unexpectedEnd
  | unknownExtension (mark : String)
  | unendedComment
  | unendedGroup
  | unopenedGroup
  | manyBranches
  /-- Switches for the whole pattern do not stand at its start. -/
  | lateFlags
  | unknownFlag
  /-- After switches there is neither of the marks that may follow. -/
  | missingMark (marks : String)
  | localeFlag
  | incompatibleFlags
  | clearedAlphabet
  | scopedTemplate
  | clearedTemplate
  | setAndCleared
  /-- The whole pattern is for ASCII and for all scripts. -/
  | twoAlphabets
  | variableLookBehind
  | farLookBehind
  | templateRepetition (greed : Greed)
  deriving DecidableEq

/-- What a repetition is called, by how it chooses. -/
def Greed.label : Greed → String
  | .greedy => "MAX_REPEAT"
  | .lazy => "MIN_REPEAT"
  | .possessive => "POSSESSIVE_REPEAT"

/-- The wording of a flaw without its position. -/
def Flaw.reason : Flaw → String
  | .loneBackslash => "bad escape (end of pattern)"
  | .incompleteEscape escape => "incomplete escape " ++ escape
  | .badEscape escape => "bad escape " ++ escape
  | .octalTooLarge escape => "octal escape value " ++ escape ++ " outside of range 0-0o377"
  | .unbracedName => "missing \x7b"
  | .undefinedCharacter name => "undefined character name " ++ Text.quoted name
  | .missingName kind => "missing " ++ kind ++ " name"
  | .unendedName terminator => "missing " ++ String.singleton terminator ++ ", unterminated name"
  | .openGroup => "cannot refer to an open group"
  | .groupOfCondition => "cannot refer to group defined in the same lookbehind subpattern"
  | .noSuchGroup number => "invalid group reference " ++ toString number
  | .unknownGroup name => "unknown group name " ++ Text.quoted name
  | .badGroupName name => "bad character in group name " ++ Text.quoted name
  | .groupZero => "bad group number"
  | .repeatedGroup name second first =>
    "redefinition of group name " ++ Text.quoted name ++ " as group " ++ toString second ++
      "; was group " ++ toString first
  | .unendedSet => "unterminated character set"
  | .badRange first last => "bad character range " ++ first ++ "-" ++ last
  | .reversedBounds => "min repeat greater than max repeat"
  | .nothingToRepeat => "nothing to repeat"
  | .repeatedTwice => "multiple repeat"
  | .hugeRepetition => "the repetition number is too large"
  | .unexpectedEnd => "unexpected end of pattern"
  | .unknownExtension mark => "unknown extension ?" ++ mark
  | .unendedComment => "missing ), unterminated comment"
  | .unendedGroup => "missing ), unterminated subpattern"
  | .unopenedGroup => "unbalanced parenthesis"
  | .manyBranches => "conditional backref with more than two branches"
  | .lateFlags => "global flags not at the start of the expression"
  | .unknownFlag => "unknown flag"
  | .missingMark marks => "missing " ++ marks
  | .localeFlag => "bad inline flags: cannot use 'L' flag with a str pattern"
  | .incompatibleFlags => "bad inline flags: flags 'a', 'u' and 'L' are incompatible"
  | .clearedAlphabet => "bad inline flags: cannot turn off flags 'a', 'u' and 'L'"
  | .scopedTemplate => "bad inline flags: cannot turn on global flag"
  | .clearedTemplate => "bad inline flags: cannot turn off global flag"
  | .setAndCleared => "bad inline flags: flag turned on and off"
  | .twoAlphabets => "ASCII and UNICODE flags are incompatible"
  | .variableLookBehind => "look-behind requires fixed-width pattern"
  | .farLookBehind => "looks too much behind"
  | .templateRepetition greed => "internal: unsupported template operator " ++ greed.label

end Regex

/-- What is wrong with a text that should be a pattern, and where, if it is in one place. -/
structure PatternError where
  source : String
  flaw : Regex.Flaw
  position : Option Nat

/-- The wording of a pattern error. In a pattern of several lines the position is given by line and column
too. -/
def PatternError.message (e : PatternError) : String :=
  match e.position with
  | none => e.flaw.reason
  | some position =>
    let before := e.source.toList.take position
    let column := (before.reverse.takeWhile (· != '\n')).length + 1
    e.flaw.reason ++ " at position " ++ toString position ++
      if e.source.contains '\n' then
        " (line " ++ toString (before.count '\n' + 1) ++ ", column " ++ toString column ++ ")"
      else ""

end Amend
