import RecordCheck.Text.Encoding.Flaw
import RecordCheck.Text.Encoding.MultiByte

/-!
# Encodings that switch between character sets

Encodings in seven bits where escape sequences designate the character set that the bytes after them
are read in.

## Main definitions

* `CharacterSet`: the sets, and `CharacterSet.first?`.
* `Designated`: the encodings by escape sequences, and `Designated.count?`.
* `Tilde.count?`: the encoding where a tilde switches between ASCII and Chinese.
-/
set_option autoImplicit false

namespace RecordCheck.Text.Encoding

/-- The character sets that escape sequences designate. -/
inductive CharacterSet where
  | ascii | romanJapanese | kana | jisX0208 | jisX0212 | jisX0213 | jisX0213Amended
  | jisX0213Second | gb2312 | ksX1001 | latin | greek
deriving DecidableEq, Repr

namespace CharacterSet

/-- A character of a table, in two bytes. -/
def place? (place? : Nat → Nat → Option Nat) : List Nat → Option (Nat × Nat)
  | row :: cell :: _ => (place? row cell).map fun characters => (2, characters)
  | _ => none

/-- The places of a table, each of which holds one character. -/
def single? (grid : Grid) (row cell : Nat) : Option Nat :=
  if grid.holds row cell then some 1 else none

/-- The number of bytes and of characters at the start of printable text in a set. The two sets of
ninety-six characters have to be asked for one at a time. -/
def first? : CharacterSet → List Nat → Option (Nat × Nat)
  | .ascii | .romanJapanese => fun _ => some (1, 1)
  | .kana => fun bytes =>
    match bytes with
    | byte :: _ => if 0x21 ≤ byte && byte ≤ 0x5F then some (1, 1) else none
    | [] => none
  | .jisX0208 => place? (single? Grid.jisX0208)
  | .jisX0212 => place? (single? Grid.jisX0212)
  | .jisX0213 => place? (MultiByte.extendedPlace? false)
  | .jisX0213Amended => place? (MultiByte.extendedPlace? true)
  | .jisX0213Second => place? (single? Grid.jisX0213Second)
  | .gb2312 => place? (single? Grid.gb2312)
  | .ksX1001 => place? (single? Grid.ksX1001)
  | .latin | .greek => fun _ => none

end CharacterSet

/-- An encoding by escape sequences. -/
structure Designated where
  /-- The sets of single bytes that can be designated, with the bytes that name them. -/
  singles : List (Nat × CharacterSet)
  /-- The sets of pairs of bytes that can be designated, with the bytes that name them. -/
  doubles : List (Nat × CharacterSet)
  /-- Whether control characters shift between the first and the second designated set. -/
  hasShifts : Bool
  /-- Whether a single character can be taken from a third designated set. -/
  hasThird : Bool
  /-- Whether a prefix may announce the later edition of the Japanese set. -/
  hasPrefix : Bool
deriving DecidableEq, Repr

namespace Designated

/-- ASCII, the variant of it for Japanese, and the Japanese set in both editions. -/
def japanese : Designated :=
  ⟨[(0x42, .ascii), (0x4A, .romanJapanese)], [(0x40, .jisX0208), (0x42, .jisX0208)],
    false, false, true⟩

/-- The same with further ideographs. -/
def japanese1 : Designated :=
  { japanese with doubles := (0x44, .jisX0212) :: japanese.doubles }

/-- The same with Chinese, Korean, Latin and Greek. -/
def japanese2 : Designated :=
  { japanese1 with
    singles := (0x41, .latin) :: (0x46, .greek) :: japanese.singles
    doubles := (0x41, .gb2312) :: (0x43, .ksX1001) :: japanese1.doubles
    hasThird := true }

/-- The extended Japanese set in its first edition. -/
def japanese3 : Designated :=
  { japanese with
    singles := [(0x42, .ascii)]
    doubles := [(0x42, .jisX0208), (0x4F, .jisX0213), (0x50, .jisX0213Second)] }

/-- The extended Japanese set as amended. -/
def japanese2004 : Designated :=
  { japanese3 with
    doubles := [(0x42, .jisX0208), (0x51, .jisX0213Amended), (0x50, .jisX0213Second)] }

/-- Further ideographs and kana of half width. -/
def japaneseExtended : Designated :=
  { japanese1 with singles := (0x49, .kana) :: japanese.singles }

/-- ASCII and Korean, between which control characters shift. -/
def korean : Designated := ⟨[(0x42, .ascii)], [(0x43, .ksX1001)], true, false, false⟩

/-- The sets designated so far, whether the second one is in use, and whether an escape sequence of
another kind is being passed through. -/
structure State where
  first : CharacterSet
  second : CharacterSet
  third : CharacterSet
  isShifted : Bool
  passes : Bool
deriving DecidableEq, Repr

/-- At the start of a text all sets are ASCII. -/
def State.start : State := ⟨.ascii, .ascii, .ascii, false, false⟩

/-- Whether a byte ends an escape sequence. -/
def isFinal (byte : Nat) : Bool := 0x40 ≤ byte && byte ≤ 0x5A

/-- The bytes of an escape sequence, the escape itself apart, up to the one that ends it. There are
at most so many, and the end of a prefix does not count as the end. -/
def sequence? (encoding : Designated) : Nat → List Nat → Option (List Nat)
  | limit + 3, 0x26 :: 0x40 :: byte :: rest =>
    if encoding.hasPrefix then
      (encoding.sequence? limit rest).map fun bytes => 0x26 :: 0x40 :: byte :: bytes
    else some [0x26, 0x40]
  | limit + 1, byte :: rest =>
    if isFinal byte then some [byte]
    else (encoding.sequence? limit rest).map (byte :: ·)
  | _, _ => none

/-- Designates the set that an escape sequence names. A prefix of two bytes in front of the sequence
for the Japanese set is not looked at. -/
def designate? (encoding : Designated) (state : State) : List Nat → Option State
  | [0x24, named] => (encoding.doubles.lookup named).map fun set => { state with first := set }
  | [0x28, named] => (encoding.singles.lookup named).map fun set => { state with first := set }
  | [0x29, named] => (encoding.singles.lookup named).map fun set => { state with second := set }
  | [0x2E, named] =>
    if encoding.hasThird then
      (encoding.singles.lookup named).map fun set => { state with third := set }
    else none
  | [0x24, 0x28, named] =>
    (encoding.doubles.lookup named).map fun set => { state with first := set }
  | [0x24, 0x29, named] =>
    (encoding.doubles.lookup named).map fun set => { state with second := set }
  | [_, _, 0x1B, 0x24, 0x42] =>
    if encoding.hasPrefix then some { state with first := .jisX0208 } else none
  | _ => none

/-- Whether there is a character of the third set for a byte. -/
def third (set : CharacterSet) (byte : Nat) : Except Flaw Unit :=
  let isThere : Option Bool := match set with
    | .ascii | .latin => some (byte < 0x80)
    | .greek => some (!([0x24, 0x25, 0x2A, 0x2E, 0x52, 0x7F].contains byte))
    | _ => none
  match isThere with
  | some true => .ok ()
  | some false => .error .malformed
  | none => .error .unsupported

/-- What stands at the start of a text: the number of its bytes and of its characters, and the state
after it. -/
def step (encoding : Designated) (state : State) : List Nat → Except Flaw (Nat × Nat × State)
  | [] => .error .malformed
  | byte :: rest =>
    if state.passes then .ok (1, 1, { state with passes := !isFinal byte })
    else if byte == 0x1B then
      match rest with
      | [] => .error .malformed
      | next :: after =>
        if [0x24, 0x26, 0x28, 0x29, 0x2E].contains next then
          match encoding.sequence? 15 rest with
          | some bytes =>
            match encoding.designate? state bytes with
            | some state => .ok (bytes.length + 1, 0, state)
            | none => .error .malformed
          | none => .error .malformed
        else if encoding.hasThird && next == 0x4E then
          match after with
          | [] => .error .malformed
          | byte :: _ => (third state.third byte).map fun _ => (3, 1, state)
        else .ok (1, 1, { state with passes := true })
    else if encoding.hasShifts && byte == 0x0F then .ok (1, 0, { state with isShifted := false })
    else if encoding.hasShifts && byte == 0x0E then .ok (1, 0, { state with isShifted := true })
    else if byte == 0x0A then .ok (1, 1, { state with isShifted := false })
    else if byte < 0x20 then .ok (1, 1, state)
    else if 0x80 ≤ byte then .error .malformed
    else
      match (if state.isShifted then state.second else state.first).first? (byte :: rest) with
      | some (width, characters) => .ok (width, characters, state)
      | none => .error .malformed

/-- Counts characters after some bytes that have been read already. -/
def countFrom (encoding : Designated) (state : State) : Nat → List Nat → Except Flaw Nat
  | _, [] => .ok 0
  | skipped + 1, _ :: rest => encoding.countFrom state skipped rest
  | 0, byte :: rest => do
    let (width, characters, state) ← encoding.step state (byte :: rest)
    return (← encoding.countFrom state (width - 1) rest) + characters

/-- The number of characters that bytes stand for. -/
def count (encoding : Designated) (bytes : List UInt8) : Except Flaw Nat :=
  encoding.countFrom .start 0 (bytes.map (·.toNat))

end Designated

namespace Tilde

/-- Counts characters, in Chinese or in ASCII. A tilde and a brace switch between them, two tildes
in ASCII stand for one, and a tilde hides the end of a line. -/
def countFrom? : Bool → List Nat → Option Nat
  | _, [] => some 0
  | isChinese, 0x7E :: next :: rest =>
    if next == 0x7D && isChinese then countFrom? false rest
    else if isChinese then none
    else if next == 0x7B then countFrom? true rest
    else if next == 0x7E then (countFrom? false rest).map (· + 1)
    else if next == 0x0A then countFrom? false rest
    else none
  | false, byte :: rest =>
    if byte < 0x80 && byte != 0x7E then (countFrom? false rest).map (· + 1) else none
  | true, row :: cell :: rest =>
    if Grid.gb2312.holds row cell then (countFrom? true rest).map (· + 1) else none
  | true, _ => none

/-- The number of characters that bytes stand for. -/
def count? (bytes : List UInt8) : Option Nat := countFrom? false (bytes.map (·.toNat))

end Tilde

end RecordCheck.Text.Encoding
