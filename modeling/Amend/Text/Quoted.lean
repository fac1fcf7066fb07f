import Amend.Text.Printable

/-!
# Quoted text

Messages show a text between quotation marks: single ones, unless the text has a single mark and no
double one. The mark in use and the backslash are escaped, line feeds, carriage returns and tabs have
short escapes, and every other character that cannot be printed is shown by its code point. Bytes are
shown in the same way after a `b`, with every byte outside ASCII as a code.
-/

namespace Amend.Text

/-- A number in hexadecimal, padded to a width. -/
def hex (width n : Nat) : List Char :=
  List.replicate (width - (Nat.toDigits 16 n).length) '0' ++ Nat.toDigits 16 n

/-- The single quotation mark. -/
def singleMark : Char := '\x27'

/-- The double quotation mark. -/
def doubleMark : Char := '\x22'

/-- The marks to put around characters: single ones, unless these hold a single and no double mark. -/
def markFor (cs : List Char) : Char :=
  if cs.contains singleMark && !cs.contains doubleMark then doubleMark else singleMark

/-- What all quoting has in common: the mark, the backslash and the three short escapes. -/
def shortEscape? (mark c : Char) : Option (List Char) :=
  if c = mark ∨ c = '\\' then some ['\\', c]
  else if c = '\n' then some ['\\', 'n']
  else if c = '\r' then some ['\\', 'r']
  else if c = '\t' then some ['\\', 't']
  else none

/-- A character by its code point, in two, four or eight hexadecimal digits. -/
def codeEscape (c : Char) : List Char :=
  if c.toNat < 0x100 then '\\' :: 'x' :: hex 2 c.toNat
  else if c.toNat < 0x10000 then '\\' :: 'u' :: hex 4 c.toNat
  else '\\' :: 'U' :: hex 8 c.toNat

/-- A character inside marks. -/
def quotedChar (mark c : Char) : List Char :=
  (shortEscape? mark c).getD (if isPrintable c then [c] else codeEscape c)

/-- Characters between marks. -/
def quotedChars (cs : List Char) : List Char :=
  markFor cs :: cs.flatMap (quotedChar (markFor cs)) ++ [markFor cs]

/-- A text between marks. -/
def quoted (s : String) : String :=
  String.ofList (quotedChars s.toList)

/-- A byte inside marks. -/
def quotedByte (mark : Char) (b : UInt8) : List Char :=
  let c := Char.ofNat b.toNat
  (shortEscape? mark c).getD
    (if 32 ≤ b.toNat ∧ b.toNat < 127 then [c] else '\\' :: 'x' :: hex 2 b.toNat)

/-- Bytes between marks, after a `b`. -/
def quotedBytes (bs : List UInt8) : String :=
  let mark := markFor (bs.map fun b => Char.ofNat b.toNat)
  String.ofList ('b' :: mark :: bs.flatMap (quotedByte mark) ++ [mark])

end Amend.Text
