import RecordCheck.Text.Encoding.Grid

/-!
# Encodings with several bytes to a character

Encodings of East Asian text in which the first byte of a character tells how many follow. ASCII
takes one byte in all of them.

## Main definitions

* `MultiByte`: the encodings.
* `MultiByte.first?`: the bytes and the characters at the start of a text.
* `MultiByte.count?`: the number of characters.
-/
set_option autoImplicit false

namespace RecordCheck.Text.Encoding

/-- The encodings with several bytes to a character. -/
inductive MultiByte where
  | eucJp | eucJis2004 | eucJisX0213
  | shiftJis | shiftJis2004 | shiftJisX0213 | cp932
  | eucKr | cp949 | johab
  | gb2312 | gbk | gb18030
  | big5 | big5Hkscs | cp950
deriving DecidableEq, Repr

namespace MultiByte

/-- One character in so many bytes, if there is one. -/
def oneIn? (width : Nat) (isThere : Bool) : Option (Nat × Nat) :=
  if isThere then some (width, 1) else none

/-! ## Japanese -/

/-- Whether a byte is a kana of half width. -/
def isHalfKana (byte : Nat) : Bool := 0xA1 ≤ byte && byte ≤ 0xDF

/-- The number of characters at a place of the extended Japanese table, in its first edition or as
amended. -/
def extendedPlace? (amended : Bool) (row cell : Nat) : Option Nat :=
  if Grid.jisX0213Pairs.holds row cell then some 2
  else if Grid.jisX0213.holds row cell
      && (amended || !Grid.jisX0213Later.holds row cell) then some 1
  else none

/-- Tables with the high bit set, a prefix for kana of half width, and a prefix for the tables of
further ideographs. -/
def eucFirst? (main : Nat → Nat → Option Nat) (further : Nat → Nat → Bool) :
    List Nat → Option (Nat × Nat)
  | 0x8E :: kana :: _ => oneIn? 2 (isHalfKana kana)
  | 0x8F :: row :: cell :: _ =>
    oneIn? 3 (0x80 ≤ row && 0x80 ≤ cell && further (row - 0x80) (cell - 0x80))
  | row :: cell :: _ =>
    if 0x80 ≤ row && 0x80 ≤ cell then
      (main (row - 0x80) (cell - 0x80)).map fun characters => (2, characters)
    else none
  | _ => none

/-- The row and the cell that are folded into two bytes of which the second tells odd rows from even
ones. Rows from 94 on stand for those of the second plane that are in use. -/
def unfolded? (lead trail : Nat) : Option (Nat × Nat) :=
  if !((0x81 ≤ lead && lead ≤ 0x9F) || (0xE0 ≤ lead && lead ≤ 0xFC)) then none
  else if !(0x40 ≤ trail && trail ≤ 0xFC && trail != 0x7F) then none
  else
    let upper := 2 * (if lead < 0xE0 then lead - 0x81 else lead - 0xC1)
    let place := if trail < 0x80 then trail - 0x40 else trail - 0x41
    some (if place < 94 then (upper, place + 0x21) else (upper + 1, place - 94 + 0x21))

/-- The row of the second plane that an unfolded row stands for: those rows are 0x21, 0x28, 0x23 to
0x25, 0x2C to 0x2F, and from 0x6E on. -/
def secondPlaneRow (row : Nat) : Nat :=
  if 103 ≤ row then row + 7
  else if 99 ≤ row || row == 95 then row - 55
  else row - 61

/-- Kana of half width in one byte, other characters in two bytes that a table is folded into. -/
def shiftFirst? (main : Nat → Nat → Option Nat) (second : Nat → Nat → Bool) :
    List Nat → Option (Nat × Nat)
  | [] => none
  | lead :: rest =>
    if isHalfKana lead then some (1, 1)
    else match rest with
      | [] => none
      | trail :: _ =>
        match unfolded? lead trail with
        | some (row, cell) =>
          if row < 94 then (main (row + 0x21) cell).map fun characters => (2, characters)
          else oneIn? 2 (second (secondPlaneRow row) cell)
        | none => none

/-- The number of characters at a place of the Japanese table. -/
def plainPlace? (row cell : Nat) : Option Nat :=
  if Grid.jisX0208.holds row cell then some 1 else none

/-! ## Korean -/

/-- Whether a byte is a consonant that a syllable can begin with. -/
def isLeadingJamo (byte : Nat) : Bool :=
  [0xA1, 0xA2, 0xA4, 0xA7, 0xA8, 0xA9, 0xB1, 0xB2, 0xB3].contains byte
    || (0xB5 ≤ byte && byte ≤ 0xBE)

/-- Whether a byte is a consonant that a syllable can end with, or the filler for none. -/
def isTrailingJamo (byte : Nat) : Bool :=
  0xA1 ≤ byte && byte ≤ 0xBE && !([0xA8, 0xB3, 0xB9].contains byte) || byte == 0xD4

/-- A table with the high bit set, where a filler announces a syllable that is spelled by its
letters. -/
def koreanFirst? : List Nat → Option (Nat × Nat)
  | 0xA4 :: 0xD4 :: rest =>
    match rest with
    | 0xA4 :: leading :: 0xA4 :: vowel :: 0xA4 :: trailing :: _ =>
      oneIn? 8 (isLeadingJamo leading && 0xBF ≤ vowel && vowel ≤ 0xD3 && isTrailingJamo trailing)
    | _ => none
  | row :: cell :: _ =>
    oneIn? 2 (0x80 ≤ row && 0x80 ≤ cell && Grid.ksX1001.holds (row - 0x80) (cell - 0x80))
  | _ => none

/-- Whether fifteen bits name the letters of a syllable: five bits each for the leading consonant,
the vowel and the trailing consonant. One value of each stands for none, and a single letter has to
be alone. -/
def isJohabSyllable (code : Nat) : Bool :=
  let leading := code / 1024 % 32
  let vowel := code / 32 % 32
  let trailing := code % 32
  let isLeading := 2 ≤ leading && leading ≤ 20
  let isVowel := 3 ≤ vowel && vowel ≤ 29 && !([8, 9, 16, 17, 24, 25].contains vowel)
  let isTrailing := 2 ≤ trailing && trailing ≤ 29 && trailing != 18
  (isLeading && isVowel && (isTrailing || trailing == 1))
    || (isLeading && vowel == 2 && trailing == 1)
    || (leading == 1 && isVowel && trailing == 1)
    || (leading == 1 && vowel == 2 && (isTrailing || trailing == 1))

/-- Whether two bytes are a symbol or an ideograph of the Korean table, which is folded as in the
Japanese encodings. -/
def isJohabSymbol (lead trail : Nat) : Bool :=
  if lead == 0xDF || 0xF9 < lead || trail < 0x31 || (0x80 ≤ trail && trail < 0x91)
      || trail % 0x80 == 0x7F || (lead == 0xDA && 0xA1 ≤ trail && trail ≤ 0xD3) then false
  else
    let upper := if lead < 0xE0 then 2 * (lead - 0xD9) else 2 * lead - 0x197
    let place := if trail < 0x91 then trail - 0x31 else trail - 0x43
    if place < 94 then Grid.ksX1001.holds (upper + 0x21) (place + 0x21)
    else Grid.ksX1001.holds (upper + 0x22) (place - 94 + 0x21)

def johabFirst? : List Nat → Option (Nat × Nat)
  | lead :: trail :: _ =>
    oneIn? 2 (if lead < 0xD8 then isJohabSyllable (lead * 256 + trail)
      else 0xD9 ≤ lead && isJohabSymbol lead trail)
  | _ => none

/-! ## Chinese -/

/-- Two bytes, or four that count the code points which have no two. -/
def chineseFirst? : List Nat → Option (Nat × Nat)
  | a :: b :: rest =>
    if !(0x81 ≤ a && a ≤ 0xFE) then none
    else if 0x30 ≤ b && b ≤ 0x39 then
      match rest with
      | c :: d :: _ =>
        let lead := a - 0x81
        let tail := (b - 0x30) * 1260 + (c - 0x81) * 10 + (d - 0x30)
        oneIn? 4 (0x81 ≤ c && c ≤ 0xFE && 0x30 ≤ d && d ≤ 0x39
          && ((lead < 4 && lead * 12600 + tail < 39420)
            || (15 ≤ lead && (lead - 15) * 12600 + tail < 0x100000)))
      | _ => none
    else oneIn? 2 (0x40 ≤ b && b ≤ 0xFE && b != 0x7F)
  | _ => none

/-- The places of the supplement of Hong Kong that stand for a letter with a mark, two characters.
-/
def hongKongPairs : List (Nat × Nat) := [(0x88, 0x62), (0x88, 0x64), (0x88, 0xA3), (0x88, 0xA5)]

/-! ## All encodings -/

/-- Two bytes that are the row and the cell of a table. -/
def tableFirst? (grid : Grid) : List Nat → Option (Nat × Nat)
  | row :: cell :: _ => oneIn? 2 (grid.holds row cell)
  | _ => none

/-- The number of bytes and of characters at the start of a text whose first byte is not ASCII. -/
def beyondAscii? : MultiByte → List Nat → Option (Nat × Nat)
  | .eucJp => eucFirst? plainPlace? Grid.jisX0212.holds
  | .eucJis2004 => eucFirst? (extendedPlace? true) (Grid.jisX0212 ++ Grid.jisX0213Second).holds
  | .eucJisX0213 => eucFirst? (extendedPlace? false) (Grid.jisX0212 ++ Grid.jisX0213Second).holds
  | .shiftJis => shiftFirst? plainPlace? fun _ _ => false
  | .shiftJis2004 => shiftFirst? (extendedPlace? true) Grid.jisX0213Second.holds
  | .shiftJisX0213 => shiftFirst? (extendedPlace? false) Grid.jisX0213Second.holds
  | .cp932 => fun bytes =>
    match bytes with
    | [] => none
    | byte :: _ =>
      if byte == 0x80 || (0xA0 ≤ byte && byte ≤ 0xDF) || 0xFD ≤ byte then some (1, 1)
      else tableFirst? Grid.cp932 bytes
  | .eucKr => koreanFirst?
  | .cp949 => tableFirst? Grid.cp949
  | .johab => johabFirst?
  | .gb2312 => tableFirst? (Grid.gb2312.map fun ((r, s), (c, d)) =>
      ((r + 0x80, s + 0x80), (c + 0x80, d + 0x80)))
  | .gbk => tableFirst? Grid.gbk
  | .gb18030 => chineseFirst?
  | .big5 => tableFirst? Grid.big5
  | .big5Hkscs => fun bytes =>
    match bytes with
    | row :: cell :: _ =>
      if hongKongPairs.contains (row, cell) then some (2, 2)
      else tableFirst? Grid.big5hkscs bytes
    | _ => none
  | .cp950 => tableFirst? Grid.cp950

/-- The number of bytes and of characters at the start of a text. -/
def first? (encoding : MultiByte) : List Nat → Option (Nat × Nat)
  | [] => none
  | byte :: rest => if byte < 0x80 then some (1, 1) else encoding.beyondAscii? (byte :: rest)

/-- Counts characters after some bytes that have been read already. -/
def countFrom? (encoding : MultiByte) : Nat → List Nat → Option Nat
  | _, [] => some 0
  | skipped + 1, _ :: rest => encoding.countFrom? skipped rest
  | 0, byte :: rest =>
    match encoding.first? (byte :: rest) with
    | some (width, characters) =>
      (encoding.countFrom? (width - 1) rest).map (· + characters)
    | none => none

/-- The number of characters that bytes stand for. -/
def count? (encoding : MultiByte) (bytes : List UInt8) : Option Nat :=
  encoding.countFrom? 0 (bytes.map (·.toNat))

end MultiByte

end RecordCheck.Text.Encoding
