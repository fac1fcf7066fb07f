import Amend.Text.Names.Alphabets
import Amend.Text.Names.Antiquity
import Amend.Text.Names.Forms
import Amend.Text.Names.Notation
import Amend.Text.Names.Pictures
import Amend.Text.Names.Scripts
import Amend.Text.Names.Signs
import Amend.Text.Ranges

/-!
# Characters by name

Characters have names in capital letters, and some have more than one. A row of names belongs to code
points one after another, with semicolons between them. A name that starts with words of the name before
it is written as their number and what follows them.

The names of ideographs and syllables follow rules instead. Some rules hold to capital letters, and all
other names may be written in letters of any case.
-/

namespace Amend.Text

/-- The words of a name, given those of the name before it in a row. -/
def nameWords (before : List String) (entry : String) : List String :=
  match entry.toList with
  | c :: rest =>
    if c.isDigit then
      before.take (c.toNat - 48) ++ (if rest.isEmpty then [] else (String.ofList rest).splitOn " ")
    else entry.splitOn " "
  | [] => []

/-- The code point with a name in a row, from a code point on. -/
def findInRow (words : List String) (code : Nat) (before : List String) : List String → Option Nat
  | [] => none
  | entry :: rest =>
    let current := nameWords before entry
    if current = words then some code else findInRow words (code + 1) current rest

/-- Second names, and the names of control characters. -/
def secondNames : List (Nat × String) :=
  [
    (0x0, "NULL"), (0x0, "NUL"), (0x1, "SOH"), (0x1, "START OF HEADING"), (0x2, "START OF TEXT"),
    (0x2, "STX"), (0x3, "ETX"), (0x3, "END OF TEXT"), (0x4, "END OF TRANSMISSION"), (0x4, "EOT"),
    (0x5, "ENQ"), (0x5, "ENQUIRY"), (0x6, "ACKNOWLEDGE"), (0x6, "ACK"), (0x7, "ALERT"),
    (0x7, "BEL"), (0x8, "BACKSPACE"), (0x8, "BS"), (0x9, "CHARACTER TABULATION"),
    (0x9, "HORIZONTAL TABULATION"), (0x9, "HT"), (0x9, "TAB"), (0xA, "LINE FEED"),
    (0xA, "NEW LINE"), (0xA, "NL"), (0xA, "END OF LINE"), (0xA, "LF"), (0xA, "EOL"),
    (0xB, "LINE TABULATION"), (0xB, "VT"), (0xB, "VERTICAL TABULATION"), (0xC, "FF"),
    (0xC, "FORM FEED"), (0xD, "CARRIAGE RETURN"), (0xD, "CR"), (0xE, "SO"),
    (0xE, "LOCKING-SHIFT ONE"), (0xE, "SHIFT OUT"), (0xF, "SI"), (0xF, "LOCKING-SHIFT ZERO"),
    (0xF, "SHIFT IN"), (0x10, "DLE"), (0x10, "DATA LINK ESCAPE"), (0x11, "DEVICE CONTROL ONE"),
    (0x11, "DC1"), (0x12, "DEVICE CONTROL TWO"), (0x12, "DC2"), (0x13, "DC3"),
    (0x13, "DEVICE CONTROL THREE"), (0x14, "DC4"), (0x14, "DEVICE CONTROL FOUR"),
    (0x15, "NEGATIVE ACKNOWLEDGE"), (0x15, "NAK"), (0x16, "SYNCHRONOUS IDLE"), (0x16, "SYN"),
    (0x17, "ETB"), (0x17, "END OF TRANSMISSION BLOCK"), (0x18, "CANCEL"), (0x18, "CAN"),
    (0x19, "EOM"), (0x19, "END OF MEDIUM"), (0x1A, "SUBSTITUTE"), (0x1A, "SUB"), (0x1B, "ESCAPE"),
    (0x1B, "ESC"), (0x1C, "INFORMATION SEPARATOR FOUR"), (0x1C, "FILE SEPARATOR"), (0x1C, "FS"),
    (0x1D, "INFORMATION SEPARATOR THREE"), (0x1D, "GROUP SEPARATOR"), (0x1D, "GS"),
    (0x1E, "INFORMATION SEPARATOR TWO"), (0x1E, "RS"), (0x1E, "RECORD SEPARATOR"),
    (0x1F, "UNIT SEPARATOR"), (0x1F, "US"), (0x1F, "INFORMATION SEPARATOR ONE"), (0x20, "SP"),
    (0x7F, "DELETE"), (0x7F, "DEL"), (0x80, "PADDING CHARACTER"), (0x80, "PAD"), (0x81, "HOP"),
    (0x81, "HIGH OCTET PRESET"), (0x82, "BREAK PERMITTED HERE"), (0x82, "BPH"), (0x83, "NBH"),
    (0x83, "NO BREAK HERE"), (0x84, "INDEX"), (0x84, "IND"), (0x85, "NEL"), (0x85, "NEXT LINE"),
    (0x86, "SSA"), (0x86, "START OF SELECTED AREA"), (0x87, "END OF SELECTED AREA"), (0x87, "ESA"),
    (0x88, "HTS"), (0x88, "HORIZONTAL TABULATION SET"), (0x88, "CHARACTER TABULATION SET"),
    (0x89, "CHARACTER TABULATION WITH JUSTIFICATION"),
    (0x89, "HORIZONTAL TABULATION WITH JUSTIFICATION"), (0x89, "HTJ"), (0x8A, "VTS"),
    (0x8A, "LINE TABULATION SET"), (0x8A, "VERTICAL TABULATION SET"), (0x8B, "PARTIAL LINE DOWN"),
    (0x8B, "PLD"), (0x8B, "PARTIAL LINE FORWARD"), (0x8C, "PARTIAL LINE UP"),
    (0x8C, "PARTIAL LINE BACKWARD"), (0x8C, "PLU"), (0x8D, "REVERSE LINE FEED"), (0x8D, "RI"),
    (0x8D, "REVERSE INDEX"), (0x8E, "SINGLE-SHIFT-2"), (0x8E, "SS2"), (0x8E, "SINGLE SHIFT TWO"),
    (0x8F, "SINGLE-SHIFT-3"), (0x8F, "SS3"), (0x8F, "SINGLE SHIFT THREE"), (0x90, "DCS"),
    (0x90, "DEVICE CONTROL STRING"), (0x91, "PU1"), (0x91, "PRIVATE USE-1"),
    (0x91, "PRIVATE USE ONE"), (0x92, "PRIVATE USE-2"), (0x92, "PU2"), (0x92, "PRIVATE USE TWO"),
    (0x93, "STS"), (0x93, "SET TRANSMIT STATE"), (0x94, "CCH"), (0x94, "CANCEL CHARACTER"),
    (0x95, "MESSAGE WAITING"), (0x95, "MW"), (0x96, "START OF PROTECTED AREA"), (0x96, "SPA"),
    (0x96, "START OF GUARDED AREA"), (0x97, "EPA"), (0x97, "END OF PROTECTED AREA"),
    (0x97, "END OF GUARDED AREA"), (0x98, "SOS"), (0x98, "START OF STRING"), (0x99, "SGC"),
    (0x99, "SINGLE GRAPHIC CHARACTER INTRODUCER"), (0x9A, "SINGLE CHARACTER INTRODUCER"),
    (0x9A, "SCI"), (0x9B, "CONTROL SEQUENCE INTRODUCER"), (0x9B, "CSI"),
    (0x9C, "STRING TERMINATOR"), (0x9C, "ST"), (0x9D, "OPERATING SYSTEM COMMAND"), (0x9D, "OSC"),
    (0x9E, "PM"), (0x9E, "PRIVACY MESSAGE"), (0x9F, "APC"), (0x9F, "APPLICATION PROGRAM COMMAND"),
    (0xA0, "NBSP"), (0xAD, "SHY"), (0x1A2, "LATIN CAPITAL LETTER GHA"),
    (0x1A3, "LATIN SMALL LETTER GHA"), (0x34F, "CGJ"), (0x61C, "ALM"),
    (0x709, "SYRIAC SUBLINEAR COLON SKEWED LEFT"), (0xCDE, "KANNADA LETTER LLLA"),
    (0xE9D, "LAO LETTER FO FON"), (0xE9F, "LAO LETTER FO FAY"), (0xEA3, "LAO LETTER RO"),
    (0xEA5, "LAO LETTER LO"), (0xFD0, "TIBETAN MARK BKA- SHOG GI MGO RGYAN"),
    (0x11EC, "HANGUL JONGSEONG YESIEUNG-KIYEOK"), (0x11ED, "HANGUL JONGSEONG YESIEUNG-SSANGKIYEOK"),
    (0x11EE, "HANGUL JONGSEONG SSANGYESIEUNG"), (0x11EF, "HANGUL JONGSEONG YESIEUNG-KHIEUKH"),
    (0x180B, "FVS1"), (0x180C, "FVS2"), (0x180D, "FVS3"), (0x180E, "MVS"), (0x180F, "FVS4"),
    (0x200B, "ZWSP"), (0x200C, "ZWNJ"), (0x200D, "ZWJ"), (0x200E, "LRM"), (0x200F, "RLM"),
    (0x202A, "LRE"), (0x202B, "RLE"), (0x202C, "PDF"), (0x202D, "LRO"), (0x202E, "RLO"),
    (0x202F, "NNBSP"), (0x205F, "MMSP"), (0x2060, "WJ"), (0x2066, "LRI"), (0x2067, "RLI"),
    (0x2068, "FSI"), (0x2069, "PDI"), (0x2118, "WEIERSTRASS ELLIPTIC FUNCTION"),
    (0x2448, "MICR ON US SYMBOL"), (0x2449, "MICR DASH SYMBOL"),
    (0x2B7A, "LEFTWARDS TRIANGLE-HEADED ARROW WITH DOUBLE VERTICAL STROKE"),
    (0x2B7C, "RIGHTWARDS TRIANGLE-HEADED ARROW WITH DOUBLE VERTICAL STROKE"),
    (0xA015, "YI SYLLABLE ITERATION MARK"), (0xAA6E, "MYANMAR LETTER KHAMTI LLA"),
    (0xFE18, "PRESENTATION FORM FOR VERTICAL RIGHT WHITE LENTICULAR BRACKET"), (0xFEFF, "ZWNBSP"),
    (0xFEFF, "BOM"), (0xFEFF, "BYTE ORDER MARK"), (0x122D4, "CUNEIFORM SIGN NU11 TENU"),
    (0x122D5, "CUNEIFORM SIGN NU11 OVER NU11 BUR OVER BUR"),
    (0x16E56, "MEDEFAIDRIN CAPITAL LETTER H"), (0x16E57, "MEDEFAIDRIN CAPITAL LETTER NG"),
    (0x16E76, "MEDEFAIDRIN SMALL LETTER H"), (0x16E77, "MEDEFAIDRIN SMALL LETTER NG"),
    (0x1B001, "HENTAIGANA LETTER E-1"),
    (0x1D0C5, "BYZANTINE MUSICAL SYMBOL FTHORA SKLIRON CHROMA VASIS")]

/-- A number in capital hexadecimal digits, of which there are at least four. -/
def codeDigits (n : Nat) : List Char :=
  let ds := (Nat.toDigits 16 n).map Char.toUpper
  List.replicate (4 - ds.length) '0' ++ ds

/-- The value of some hexadecimal digits whose letters are capital. -/
def capitalHex? (cs : List Char) : Option Nat :=
  if cs.all fun c => c.isDigit || ('A' ≤ c && c ≤ 'F') then
    some (cs.foldl (fun n c => 16 * n + (if c.isDigit then c.toNat - 48 else c.toNat - 55)) 0)
  else none

/-- What follows the start of a text, if it has that start. -/
def afterStart? (start s : String) : Option (List Char) :=
  if start.toList.isPrefixOf s.toList then some (s.toList.drop start.length) else none

/-- Characters named by their code points: what comes before the digits, and the ranges. -/
def numberedNames : List (String × List (Nat × Nat)) :=
  [
    ("CJK COMPATIBILITY IDEOGRAPH-", [(0xF900, 0xFA6D), (0xFA70, 0xFAD9), (0x2F800, 0x2FA1D)]),
    ("KHITAN SMALL SCRIPT CHARACTER-", [(0x18B00, 0x18CD5)]),
    ("NUSHU CHARACTER-", [(0x1B170, 0x1B2FB)])]

/-- The ranges of the ideographs of the unified set. -/
def ideographRanges : List (Nat × Nat) :=
  [
    (0x3400, 0x4DBF), (0x4E00, 0x9FFF), (0x20000, 0x2A6DF), (0x2A700, 0x2B738),
    (0x2B740, 0x2B81D), (0x2B820, 0x2CEA1), (0x2CEB0, 0x2EBE0), (0x30000, 0x3134A)]

/-- The code point of an ideograph of the unified set by its name. -/
def ideographNamed? (name : String) : Option Nat := do
  let ds ← afterStart? "CJK UNIFIED IDEOGRAPH-" name
  let n ← capitalHex? ds
  if (ds.length = 4 ∨ ds.length = 5) ∧ inRanges n ideographRanges then some n else none

/-- The sounds with which a syllable can start. -/
def initialSounds : List String :=
  ["G", "GG", "N", "D", "DD", "R", "M", "B", "BB", "S", "SS", "", "J", "JJ", "C", "K", "T", "P", "H"]

/-- The sounds in the middle of a syllable. -/
def middleSounds : List String :=
  ["A", "AE", "YA", "YAE", "EO", "E", "YEO", "YE", "O", "WA", "WAE", "OE", "YO", "U", "WEO", "WE", "WI",
    "YU", "EU", "YI", "I"]

/-- The sounds with which a syllable can end. -/
def finalSounds : List String :=
  ["", "G", "GG", "GS", "N", "NJ", "NH", "D", "L", "LG", "LM", "LB", "LS", "LT", "LP", "LH", "M", "B",
    "BS", "S", "SS", "NG", "J", "C", "K", "T", "P", "H"]

/-- The code point of a syllable by its name. Syllables stand in the order of their sounds. -/
def syllableNamed? (name : String) : Option Nat := do
  let sounds ← afterStart? "HANGUL SYLLABLE " name
  initialSounds.zipIdx.findSome? fun (first, i) =>
    middleSounds.zipIdx.findSome? fun (middle, j) =>
      finalSounds.zipIdx.findSome? fun (last, k) =>
        if (first ++ middle ++ last).toList = sounds then some (0xAC00 + 588 * i + 28 * j + k) else none

/-- The code point of a character named by its code point. -/
def numberedNamed? (name : String) : Option Nat :=
  numberedNames.findSome? fun (start, ranges) => do
    let ds ← afterStart? start name
    let n ← capitalHex? ds
    if codeDigits n = ds ∧ inRanges n ranges then some n else none

/-- The code point of a selector of variants by its second name, which has its number. -/
def selectorNamed? (name : String) : Option Nat := do
  let ds ← afterStart? "VS" name
  let n := Nat.ofDigitChars 10 ds 0
  if ds = Nat.toDigits 10 n ∧ 1 ≤ n ∧ n ≤ 256 then
    some (if n ≤ 16 then 0xFDFF + n else 0xE00EF + n)
  else none

/-- The tables of names. -/
def listedNames : List (Nat × List String) :=
  letterNames ++ signNames ++ pictureNames ++ formNames ++ scriptNames ++ notationNames ++ ancientNames

/-- The code point of the character with a name. -/
def codeNamed? (name : String) : Option Nat :=
  let capital := name.map Char.toUpper
  let words := capital.splitOn " "
  (ideographNamed? name).or <| (syllableNamed? name).or <| (numberedNamed? capital).or <|
    (selectorNamed? capital).or <|
      ((secondNames.find? fun e => e.2 == capital).map Prod.fst).or <|
        listedNames.findSome? fun (code, row) => findInRow words code [] (row.flatMap (·.splitOn ";"))

end Amend.Text
