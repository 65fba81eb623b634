import RecordCheck.Text.CharacterName.Alphabets
import RecordCheck.Text.CharacterName.Ancient
import RecordCheck.Text.CharacterName.EastAsia
import RecordCheck.Text.CharacterName.Notation
import RecordCheck.Text.CharacterName.Pictures
import RecordCheck.Text.CharacterName.Scripts
import RecordCheck.Text.CharacterName.Symbols
import RecordCheck.Text.Ranges

/-!
# Names of characters

The names that the Unicode standard gives to characters, and the other names that some of them go
by. Case does not matter, except in the names of ideographs and of Korean syllables, which are made
by a rule.

## Main definitions

* `Text.characterNamed?`: the code point of the character with a name.
-/
set_option autoImplicit false

namespace RecordCheck.Text

/-- Other names of characters, apart from the numbered selectors of variants. -/
def otherNames : List (String × Nat) :=
  [("NULL", 0x0), ("NUL", 0x0), ("START OF HEADING", 0x1), ("SOH", 0x1), ("START OF TEXT", 0x2),
   ("STX", 0x2), ("END OF TEXT", 0x3), ("ETX", 0x3), ("END OF TRANSMISSION", 0x4), ("EOT", 0x4),
   ("ENQUIRY", 0x5), ("ENQ", 0x5), ("ACKNOWLEDGE", 0x6), ("ACK", 0x6), ("ALERT", 0x7),
   ("BEL", 0x7), ("BACKSPACE", 0x8), ("BS", 0x8), ("CHARACTER TABULATION", 0x9),
   ("HORIZONTAL TABULATION", 0x9), ("HT", 0x9), ("TAB", 0x9), ("LINE FEED", 0xA),
   ("NEW LINE", 0xA), ("END OF LINE", 0xA), ("LF", 0xA), ("NL", 0xA), ("EOL", 0xA),
   ("LINE TABULATION", 0xB), ("VERTICAL TABULATION", 0xB), ("VT", 0xB), ("FORM FEED", 0xC),
   ("FF", 0xC), ("CARRIAGE RETURN", 0xD), ("CR", 0xD), ("SHIFT OUT", 0xE),
   ("LOCKING-SHIFT ONE", 0xE), ("SO", 0xE), ("SHIFT IN", 0xF), ("LOCKING-SHIFT ZERO", 0xF),
   ("SI", 0xF), ("DATA LINK ESCAPE", 0x10), ("DLE", 0x10), ("DEVICE CONTROL ONE", 0x11),
   ("DC1", 0x11), ("DEVICE CONTROL TWO", 0x12), ("DC2", 0x12), ("DEVICE CONTROL THREE", 0x13),
   ("DC3", 0x13), ("DEVICE CONTROL FOUR", 0x14), ("DC4", 0x14), ("NEGATIVE ACKNOWLEDGE", 0x15),
   ("NAK", 0x15), ("SYNCHRONOUS IDLE", 0x16), ("SYN", 0x16), ("END OF TRANSMISSION BLOCK", 0x17),
   ("ETB", 0x17), ("CANCEL", 0x18), ("CAN", 0x18), ("END OF MEDIUM", 0x19), ("EOM", 0x19),
   ("SUBSTITUTE", 0x1A), ("SUB", 0x1A), ("ESCAPE", 0x1B), ("ESC", 0x1B),
   ("INFORMATION SEPARATOR FOUR", 0x1C), ("FILE SEPARATOR", 0x1C), ("FS", 0x1C),
   ("INFORMATION SEPARATOR THREE", 0x1D), ("GROUP SEPARATOR", 0x1D), ("GS", 0x1D),
   ("INFORMATION SEPARATOR TWO", 0x1E), ("RECORD SEPARATOR", 0x1E), ("RS", 0x1E),
   ("INFORMATION SEPARATOR ONE", 0x1F), ("UNIT SEPARATOR", 0x1F), ("US", 0x1F), ("SP", 0x20),
   ("DELETE", 0x7F), ("DEL", 0x7F), ("PADDING CHARACTER", 0x80), ("PAD", 0x80),
   ("HIGH OCTET PRESET", 0x81), ("HOP", 0x81), ("BREAK PERMITTED HERE", 0x82), ("BPH", 0x82),
   ("NO BREAK HERE", 0x83), ("NBH", 0x83), ("INDEX", 0x84), ("IND", 0x84), ("NEXT LINE", 0x85),
   ("NEL", 0x85), ("START OF SELECTED AREA", 0x86), ("SSA", 0x86), ("END OF SELECTED AREA", 0x87),
   ("ESA", 0x87), ("CHARACTER TABULATION SET", 0x88), ("HORIZONTAL TABULATION SET", 0x88),
   ("HTS", 0x88), ("CHARACTER TABULATION WITH JUSTIFICATION", 0x89),
   ("HORIZONTAL TABULATION WITH JUSTIFICATION", 0x89), ("HTJ", 0x89),
   ("LINE TABULATION SET", 0x8A), ("VERTICAL TABULATION SET", 0x8A), ("VTS", 0x8A),
   ("PARTIAL LINE FORWARD", 0x8B), ("PARTIAL LINE DOWN", 0x8B), ("PLD", 0x8B),
   ("PARTIAL LINE BACKWARD", 0x8C), ("PARTIAL LINE UP", 0x8C), ("PLU", 0x8C),
   ("REVERSE LINE FEED", 0x8D), ("REVERSE INDEX", 0x8D), ("RI", 0x8D), ("SINGLE SHIFT TWO", 0x8E),
   ("SINGLE-SHIFT-2", 0x8E), ("SS2", 0x8E), ("SINGLE SHIFT THREE", 0x8F), ("SINGLE-SHIFT-3", 0x8F),
   ("SS3", 0x8F), ("DEVICE CONTROL STRING", 0x90), ("DCS", 0x90), ("PRIVATE USE ONE", 0x91),
   ("PRIVATE USE-1", 0x91), ("PU1", 0x91), ("PRIVATE USE TWO", 0x92), ("PRIVATE USE-2", 0x92),
   ("PU2", 0x92), ("SET TRANSMIT STATE", 0x93), ("STS", 0x93), ("CANCEL CHARACTER", 0x94),
   ("CCH", 0x94), ("MESSAGE WAITING", 0x95), ("MW", 0x95), ("START OF GUARDED AREA", 0x96),
   ("START OF PROTECTED AREA", 0x96), ("SPA", 0x96), ("END OF GUARDED AREA", 0x97),
   ("END OF PROTECTED AREA", 0x97), ("EPA", 0x97), ("START OF STRING", 0x98), ("SOS", 0x98),
   ("SINGLE GRAPHIC CHARACTER INTRODUCER", 0x99), ("SGC", 0x99),
   ("SINGLE CHARACTER INTRODUCER", 0x9A), ("SCI", 0x9A), ("CONTROL SEQUENCE INTRODUCER", 0x9B),
   ("CSI", 0x9B), ("STRING TERMINATOR", 0x9C), ("ST", 0x9C), ("OPERATING SYSTEM COMMAND", 0x9D),
   ("OSC", 0x9D), ("PRIVACY MESSAGE", 0x9E), ("PM", 0x9E), ("APPLICATION PROGRAM COMMAND", 0x9F),
   ("APC", 0x9F), ("NBSP", 0xA0), ("SHY", 0xAD), ("LATIN CAPITAL LETTER GHA", 0x1A2),
   ("LATIN SMALL LETTER GHA", 0x1A3), ("CGJ", 0x34F), ("ALM", 0x61C),
   ("SYRIAC SUBLINEAR COLON SKEWED LEFT", 0x709), ("KANNADA LETTER LLLA", 0xCDE),
   ("LAO LETTER FO FON", 0xE9D), ("LAO LETTER FO FAY", 0xE9F), ("LAO LETTER RO", 0xEA3),
   ("LAO LETTER LO", 0xEA5), ("TIBETAN MARK BKA- SHOG GI MGO RGYAN", 0xFD0),
   ("HANGUL JONGSEONG YESIEUNG-KIYEOK", 0x11EC), ("HANGUL JONGSEONG YESIEUNG-SSANGKIYEOK", 0x11ED),
   ("HANGUL JONGSEONG SSANGYESIEUNG", 0x11EE), ("HANGUL JONGSEONG YESIEUNG-KHIEUKH", 0x11EF),
   ("FVS1", 0x180B), ("FVS2", 0x180C), ("FVS3", 0x180D), ("MVS", 0x180E), ("FVS4", 0x180F),
   ("ZWSP", 0x200B), ("ZWNJ", 0x200C), ("ZWJ", 0x200D), ("LRM", 0x200E), ("RLM", 0x200F),
   ("LRE", 0x202A), ("RLE", 0x202B), ("PDF", 0x202C), ("LRO", 0x202D), ("RLO", 0x202E),
   ("NNBSP", 0x202F), ("MMSP", 0x205F), ("WJ", 0x2060), ("LRI", 0x2066), ("RLI", 0x2067),
   ("FSI", 0x2068), ("PDI", 0x2069), ("WEIERSTRASS ELLIPTIC FUNCTION", 0x2118),
   ("MICR ON US SYMBOL", 0x2448), ("MICR DASH SYMBOL", 0x2449),
   ("LEFTWARDS TRIANGLE-HEADED ARROW WITH DOUBLE VERTICAL STROKE", 0x2B7A),
   ("RIGHTWARDS TRIANGLE-HEADED ARROW WITH DOUBLE VERTICAL STROKE", 0x2B7C),
   ("YI SYLLABLE ITERATION MARK", 0xA015), ("MYANMAR LETTER KHAMTI LLA", 0xAA6E),
   ("PRESENTATION FORM FOR VERTICAL RIGHT WHITE LENTICULAR BRACKET", 0xFE18),
   ("BYTE ORDER MARK", 0xFEFF), ("BOM", 0xFEFF), ("ZWNBSP", 0xFEFF),
   ("CUNEIFORM SIGN NU11 TENU", 0x122D4), ("CUNEIFORM SIGN NU11 OVER NU11 BUR OVER BUR", 0x122D5),
   ("MEDEFAIDRIN CAPITAL LETTER H", 0x16E56), ("MEDEFAIDRIN CAPITAL LETTER NG", 0x16E57),
   ("MEDEFAIDRIN SMALL LETTER H", 0x16E76), ("MEDEFAIDRIN SMALL LETTER NG", 0x16E77),
   ("HENTAIGANA LETTER E-1", 0x1B001),
   ("BYZANTINE MUSICAL SYMBOL FTHORA SKLIRON CHROMA VASIS", 0x1D0C5)]

/-- The number that digits up to F in upper case stand for. -/
def upperHex? (digits : List Char) : Option Nat :=
  if digits.all fun c => c.isDigit || ('A' ≤ c && c ≤ 'F') then
    some (digits.foldl (fun n c => 16 * n + (if c.isDigit then c.toNat - 48 else c.toNat - 55)) 0)
  else none

/-- The characters after a stem in a name. -/
def afterStem? (stem : String) (name : List Char) : Option (List Char) :=
  if stem.toList.isPrefixOf name then some (name.drop stem.length) else none

/-! ## Names made by a rule -/

/-- The ranges of ideographs that are named by their code points. -/
def ideographRanges : List (Nat × Nat) :=
  [(0x3400, 0x4DBF), (0x4E00, 0x9FFF), (0x20000, 0x2A6DF), (0x2A700, 0x2B738), (0x2B740, 0x2B81D),
   (0x2B820, 0x2CEA1), (0x2CEB0, 0x2EBE0), (0x30000, 0x3134A)]

/-- The ideograph with a code point of four or five digits. -/
def ideograph? (digits : List Char) : Option Nat :=
  if digits.length == 4 || digits.length == 5 then
    (upperHex? digits).filter (inRanges ideographRanges)
  else none

/-- The sounds that Korean syllables begin with. -/
def leadingSounds : List String :=
  ["G", "GG", "N", "D", "DD", "R", "M", "B", "BB", "S", "SS", "", "J", "JJ", "C", "K", "T", "P",
   "H"]

/-- The sounds in the middle of Korean syllables. -/
def vowelSounds : List String :=
  ["A", "AE", "YA", "YAE", "EO", "E", "YEO", "YE", "O", "WA", "WAE", "OE", "YO", "U", "WEO", "WE",
   "WI", "YU", "EU", "YI", "I"]

/-- The sounds that Korean syllables end with. -/
def trailingSounds : List String :=
  ["", "G", "GG", "GS", "N", "NJ", "NH", "D", "L", "LG", "LM", "LB", "LS", "LT", "LP", "LH", "M",
   "B", "BS", "S", "SS", "NG", "J", "C", "K", "T", "P", "H"]

/-- The number of the longest sound that a name begins with, and the rest of the name. -/
def soundOf? (sounds : List String) (name : List Char) : Option (Nat × List Char) :=
  let fitting := sounds.zipIdx.filterMap fun (sound, number) =>
    (afterStem? sound name).map fun rest => (number, rest)
  fitting.foldl (fun best next =>
    match best with
    | none => some next
    | some found => if next.2.length < found.2.length then some next else some found) none

/-- The Korean syllable of given sounds. -/
def syllable? (name : List Char) : Option Nat := do
  let (leading, rest) ← soundOf? leadingSounds name
  let (vowel, rest) ← soundOf? vowelSounds rest
  let (trailing, rest) ← soundOf? trailingSounds rest
  if rest.isEmpty then
    some (0xAC00 + (leading * vowelSounds.length + vowel) * trailingSounds.length + trailing)
  else none

/-- Stems of names that end in the code point, and the ranges that they hold for. -/
def codedNames : List (String × List (Nat × Nat)) :=
  [("CJK COMPATIBILITY IDEOGRAPH-", [(0xF900, 0xFA6D), (0xFA70, 0xFAD9), (0x2F800, 0x2FA1D)]),
   ("KHITAN SMALL SCRIPT CHARACTER-", [(0x18B00, 0x18CD5)]),
   ("NUSHU CHARACTER-", [(0x1B170, 0x1B2FB)])]

/-- The code point that a name ends in, for stems that have such names. -/
def codeInName? (name : List Char) : Option Nat :=
  codedNames.findSome? fun (stem, ranges) =>
    (afterStem? stem name).bind fun digits =>
      (upperHex? digits).filter fun code =>
        inRanges ranges code && digits.length == (if code < 0x10000 then 4 else 5)

/-- The selector of variants with a number from one to two hundred and fifty-six. -/
def selector? (name : List Char) : Option Nat :=
  (List.range 256).findSome? fun i =>
    if name == ("VS" ++ toString (i + 1)).toList then
      some (if i < 16 then 0xFE00 + i else 0xE0100 + (i - 16))
    else none

/-! ## All names -/

/-- The runs of names of all characters with names of their own. -/
def allNames : List NameRun :=
  alphabetNames ++ scriptNames ++ symbolNames ++ eastAsianNames ++ ancientNames ++ notationNames ++
    pictureNames

/-- The code point of the character with a name. -/
def characterNamed? (name : String) : Option Nat :=
  let given := name.toList
  match afterStem? "HANGUL SYLLABLE " given, afterStem? "CJK UNIFIED IDEOGRAPH-" given with
  | some sounds, _ => syllable? sounds
  | none, some digits => ideograph? digits
  | none, none =>
    let upper := given.map Char.toUpper
    let plain := String.ofList upper
    (otherNames.lookup plain).or <| (selector? upper).or <| (codeInName? upper).or <|
      allNames.findSome? fun run => run.find? plain

end RecordCheck.Text
