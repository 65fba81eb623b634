import RecordCheck.Number.Reading
import RecordCheck.Value.Equality

/-!
# JSON text as values

The reader takes the characters off the front of the text. A fault is told by its cause and its
place, and its message gives line, column and index of the place. Objects keep the order of their
entries; of two entries with one key the later value wins.

## Main definitions

* `Json.read`, `Json.readWithin`: the value of a text.
* `Json.Fault.message`: the message of a fault.
-/
set_option autoImplicit false

namespace RecordCheck.Json

/-- What is wrong with a text that is not JSON. -/
inductive Cause where
  | value | propertyName | colon | comma | unterminated | control | escape | unicodeEscape
  | extraData | byteOrderMark
deriving DecidableEq, Repr

def Cause.message : Cause → String
  | .value => "Expecting value"
  | .propertyName => "Expecting property name enclosed in double quotes"
  | .colon => "Expecting ':' delimiter"
  | .comma => "Expecting ',' delimiter"
  | .unterminated => "Unterminated string starting at"
  | .control => "Invalid control character at"
  | .escape => "Invalid \\escape"
  | .unicodeEscape => "Invalid \\uXXXX escape"
  | .extraData => "Extra data"
  | .byteOrderMark => "Unexpected UTF-8 BOM (decode using utf-8-sig)"

/-- A fault: a cause with the number of characters left after its place, a whole number with more
digits than are read, or values inside each other more deeply than are read. -/
inductive Fault where
  | malformed (cause : Cause) (left : Nat)
  | tooManyDigits
  | tooDeep
deriving DecidableEq, Repr

/-- The place of an index in a text: line and column, both counted from one. -/
def position (text : List Char) (index : Nat) : Nat × Nat :=
  let before := text.take index
  (before.count '\n' + 1, (before.reverse.takeWhile (· != '\n')).length + 1)

/-- The message of a fault in a text. -/
def Fault.message (text : List Char) : Fault → String
  | .malformed cause left =>
    let index := text.length - left
    let (line, column) := position text index
    cause.message ++ ": line " ++ toString line ++ " column " ++ toString column ++
      " (char " ++ toString index ++ ")"
  | .tooManyDigits => "Exceeds the limit for whole numbers"
  | .tooDeep => "Exceeds the limit for values inside each other"

/-- What is left after blanks. -/
def skipBlanks (cs : List Char) : List Char :=
  cs.dropWhile fun c => c == ' ' || c == '\t' || c == '\n' || c == '\r'

/-- What is left after a word, if the text starts with it. -/
def word? (word cs : List Char) : Option (List Char) :=
  if word.isPrefixOf cs then some (cs.drop word.length) else none

/-! ## Text between quotes -/

/-- The value of a hexadecimal digit. -/
def hexValue? (c : Char) : Option Nat :=
  let n := c.toNat
  if 48 ≤ n && n ≤ 57 then some (n - 48)
  else if 65 ≤ n && n ≤ 70 then some (n - 55)
  else if 97 ≤ n && n ≤ 102 then some (n - 87)
  else none

/-- The unit of sixteen bits that four hexadecimal digits stand for. -/
def unit? : List Char → Option (Nat × List Char)
  | a :: b :: c :: d :: rest =>
    match hexValue? a, hexValue? b, hexValue? c, hexValue? d with
    | some w, some x, some y, some z => some (w * 0x1000 + x * 0x100 + y * 0x10 + z, rest)
    | _, _, _, _ => none
  | _ => none

/-- The character of an escape with one letter. -/
def letterEscape? : Char → Option Char
  | '"' => some '"'
  | '\\' => some '\\'
  | '/' => some '/'
  | 'b' => some '\x08'
  | 'f' => some '\x0c'
  | 'n' => some '\n'
  | 'r' => some '\r'
  | 't' => some '\t'
  | _ => none

/-- Units of sixteen bits and characters of a text, put together: a high and a low surrogate in
sequence are one character. -/
def joinSurrogates : List Nat → List Nat
  | u :: v :: rest =>
    if 0xD800 ≤ u && u < 0xDC00 && 0xDC00 ≤ v && v < 0xE000 then
      (0x10000 + (u - 0xD800) * 0x400 + (v - 0xDC00)) :: joinSurrogates rest
    else u :: joinSurrogates (v :: rest)
  | codes => codes

/-- The text made up of code points. A surrogate that has no partner breaks it. -/
def textOf (codes : List Nat) : Value :=
  let joined := joinSurrogates codes
  if joined.any fun code => 0xD800 ≤ code && code < 0xE000 then .brokenStr joined
  else .str (String.ofList (joined.map Char.ofNat))

/-- Reads text up to the closing quote. `start` is how many characters were left before the opening
one, and `fuel` bounds the number of steps. -/
def readText (start : Nat) : Nat → List Char → Except Fault (List Nat × List Char)
  | 0, _ => .error (.malformed .unterminated start)
  | _ + 1, [] => .error (.malformed .unterminated start)
  | _ + 1, '"' :: rest => .ok ([], rest)
  | _ + 1, ['\\'] => .error (.malformed .unterminated start)
  | fuel + 1, '\\' :: 'u' :: rest =>
    if rest.length < 5 then .error (.malformed .unicodeEscape (rest.length + 1))
    else match unit? rest with
      | none => .error (.malformed .unicodeEscape (rest.length + 1))
      | some (u, rest) =>
        match 0xD800 ≤ u && u < 0xDC00, rest with
        | true, '\\' :: 'u' :: after =>
          if 5 ≤ after.length && (unit? after).isNone then
            .error (.malformed .unicodeEscape (after.length + 1))
          else (readText start fuel rest).map fun (codes, rest) => (u :: codes, rest)
        | _, _ => (readText start fuel rest).map fun (codes, rest) => (u :: codes, rest)
  | fuel + 1, '\\' :: c :: rest =>
    match letterEscape? c with
    | some d => (readText start fuel rest).map fun (codes, rest) => (d.toNat :: codes, rest)
    | none => .error (.malformed .escape (rest.length + 2))
  | fuel + 1, c :: rest =>
    if c.toNat < 0x20 then .error (.malformed .control (rest.length + 1))
    else (readText start fuel rest).map fun (codes, rest) => (c.toNat :: codes, rest)

/-! ## Numbers -/

/-- Splits off the digits at the front. -/
def digits (cs : List Char) : List Char × List Char :=
  (cs.takeWhile Reading.isAsciiDigit, cs.dropWhile Reading.isAsciiDigit)

/-- Splits off a point with digits after it. -/
def fraction : List Char → List Char × List Char
  | '.' :: rest => match digits rest with
    | ([], _) => ([], '.' :: rest)
    | (ds, rest) => ('.' :: ds, rest)
  | cs => ([], cs)

/-- Splits off an exponent with digits in it. -/
def exponent : List Char → List Char × List Char
  | e :: rest =>
    if e == 'e' || e == 'E' then
      let (sign, after) : List Char × List Char := match rest with
        | '-' :: after => (['-'], after)
        | '+' :: after => (['+'], after)
        | after => ([], after)
      match digits after with
      | ([], _) => ([], e :: rest)
      | (ds, rest) => (e :: sign ++ ds, rest)
    else ([], e :: rest)
  | [] => ([], [])

/-- Reads a number. -/
def readNumber (cs : List Char) : Except Fault (Value × List Char) :=
  let (sign, unsigned) : List Char × List Char := match cs with
    | '-' :: rest => (['-'], rest)
    | rest => ([], rest)
  let (whole, rest) : List Char × List Char := match unsigned with
    | '0' :: rest => (['0'], rest)
    | rest => digits rest
  if whole.isEmpty then .error (.malformed .value cs.length)
  else
    let (part, rest) := fraction rest
    let (power, rest) := exponent rest
    if part.isEmpty && power.isEmpty then
      match readInteger? (sign ++ whole) with
      | some n => .ok (.int n, rest)
      | none => .error .tooManyDigits
    else match readFloat? (sign ++ whole ++ part ++ power) with
      | some x => .ok (.float x, rest)
      | none => .error (.malformed .value cs.length)

/-! ## Values -/

/-- The words that stand for values. -/
def words : List (String × Value) :=
  [("null", .null), ("true", .bool true), ("false", .bool false), ("NaN", .float (.nan 0)),
   ("Infinity", .float (.infinite false)), ("-Infinity", .float (.infinite true))]

/-- Reads a word or a number. -/
def readPlain (cs : List Char) : Except Fault (Value × List Char) :=
  match words.findSome? fun (word, v) => (word? word.toList cs).map fun rest => (v, rest) with
  | some found => .ok found
  | none => readNumber cs

mutual

/-- Reads a value that starts with the first character, with no more than `depth` arrays and objects
inside each other. Of any two steps one takes a character off, so twice the length of the text
bounds their number. -/
def readValue (depth : Nat) : Nat → List Char → Except Fault (Value × List Char)
  | 0, cs => .error (.malformed .value cs.length)
  | _ + 1, [] => .error (.malformed .value 0)
  | fuel + 1, '"' :: rest =>
    (readText (rest.length + 1) fuel rest).map fun (codes, rest) => (textOf codes, rest)
  | fuel + 1, '[' :: rest =>
    if depth = 0 then .error .tooDeep
    else match skipBlanks rest with
      | ']' :: rest => .ok (.list [], rest)
      | rest => (readItems (depth - 1) fuel rest).map fun (vs, rest) => (.list vs, rest)
  | fuel + 1, '\x7b' :: rest =>
    if depth = 0 then .error .tooDeep
    else match skipBlanks rest with
      | '\x7d' :: rest => .ok (.dict [], rest)
      | rest => (readEntries (depth - 1) fuel rest).map fun (es, rest) => (.ofEntries es, rest)
  | _ + 1, cs => readPlain cs

/-- Reads the entries of an array up to its end. -/
def readItems (depth : Nat) : Nat → List Char → Except Fault (List Value × List Char)
  | 0, cs => .error (.malformed .value cs.length)
  | fuel + 1, cs =>
    match readValue depth fuel cs with
    | .error fault => .error fault
    | .ok (v, rest) =>
      match skipBlanks rest with
      | ']' :: rest => .ok ([v], rest)
      | ',' :: rest =>
        (readItems depth fuel (skipBlanks rest)).map fun (vs, rest) => (v :: vs, rest)
      | rest => .error (.malformed .comma rest.length)

/-- Reads the entries of an object up to its end. -/
def readEntries (depth : Nat) : Nat → List Char → Except Fault (List (Value × Value) × List Char)
  | 0, cs => .error (.malformed .propertyName cs.length)
  | fuel + 1, '"' :: cs =>
    match readText (cs.length + 1) fuel cs with
    | .error fault => .error fault
    | .ok (codes, rest) =>
      match skipBlanks rest with
      | ':' :: rest =>
        match readValue depth fuel (skipBlanks rest) with
        | .error fault => .error fault
        | .ok (v, rest) =>
          match skipBlanks rest with
          | '\x7d' :: rest => .ok ([(textOf codes, v)], rest)
          | ',' :: rest =>
            (readEntries depth fuel (skipBlanks rest)).map fun (es, rest) =>
              ((textOf codes, v) :: es, rest)
          | rest => .error (.malformed .comma rest.length)
      | rest => .error (.malformed .colon rest.length)
  | _ + 1, cs => .error (.malformed .propertyName cs.length)

end

/-- How many arrays and objects may lie inside each other. -/
def maxDepth : Nat := 990

/-- Reads a text that holds one value and nothing else but blanks, with no more than `depth` arrays
and objects inside each other. -/
def readWithin (depth : Nat) (cs : List Char) : Except Fault Value :=
  if cs.head? == some '\uFEFF' then .error (.malformed .byteOrderMark cs.length)
  else match readValue depth (2 * cs.length + 2) (skipBlanks cs) with
    | .error fault => .error fault
    | .ok (v, rest) =>
      match skipBlanks rest with
      | [] => .ok v
      | rest => .error (.malformed .extraData rest.length)

/-- Reads a text that holds one value and nothing else but blanks. -/
def read (cs : List Char) : Except Fault Value := readWithin maxDepth cs

end RecordCheck.Json
