import RecordCheck.Text.CharacterName

/-!
# Text with escapes

Encodings of text as bytes that stand for themselves, where a backslash opens an escape for any
other character.

## Main definitions

* `Escaped.count?`: all escapes, by number and by name.
* `Escaped.countRaw?`: escapes of four or eight hexadecimal digits only.
-/
set_option autoImplicit false

namespace RecordCheck.Text.Encoding.Escaped

def isHexDigit (byte : Nat) : Bool :=
  (0x30 ≤ byte && byte ≤ 0x39) || (0x41 ≤ byte && byte ≤ 0x46) || (0x61 ≤ byte && byte ≤ 0x66)

def hexValue (byte : Nat) : Nat :=
  if byte ≤ 0x39 then byte - 0x30 else if byte ≤ 0x46 then byte - 0x37 else byte - 0x57

def isOctalDigit (byte : Nat) : Bool := 0x30 ≤ byte && byte ≤ 0x37

/-- The number of bytes that a number of so many hexadecimal digits takes, if it is there and names
a code point. -/
def hexadecimal? (width : Nat) (rest : List Nat) : Option Nat :=
  let digits := rest.take width
  if digits.length == width && digits.all isHexDigit
      && digits.foldl (fun n d => n * 16 + hexValue d) 0 < 0x110000 then
    some width
  else none

/-- The number of bytes that a name in braces takes, if it names a character. -/
def named? : List Nat → Option Nat
  | 0x7B :: rest =>
    let name := rest.takeWhile (· != 0x7D)
    if name.length < rest.length && name.all (· < 0x80)
        && (characterNamed? (String.ofList (name.map Char.ofNat))).isSome then
      some (name.length + 2)
    else none
  | _ => none

/-- What follows a backslash: the number of bytes it takes and the number of characters that the
escape stands for. -/
def escape? : List Nat → Option (Nat × Nat)
  | [] => none
  | 0x0A :: _ => some (1, 0)
  | 0x78 :: rest => (hexadecimal? 2 rest).map fun width => (width + 1, 1)
  | 0x75 :: rest => (hexadecimal? 4 rest).map fun width => (width + 1, 1)
  | 0x55 :: rest => (hexadecimal? 8 rest).map fun width => (width + 1, 1)
  | 0x4E :: rest => (named? rest).map fun width => (width + 1, 1)
  | byte :: rest =>
    if isOctalDigit byte then some (1 + ((rest.take 2).takeWhile isOctalDigit).length, 1)
    else if [0x5C, 0x27, 0x22, 0x62, 0x66, 0x74, 0x6E, 0x72, 0x76, 0x61].contains byte then
      some (1, 1)
    else some (1, 2)

/-- What follows a backslash where only escapes of four or eight hexadecimal digits are known. A
backslash at the end stands for itself. -/
def rawEscape? : List Nat → Option (Nat × Nat)
  | [] => some (0, 1)
  | 0x75 :: rest => (hexadecimal? 4 rest).map fun width => (width + 1, 1)
  | 0x55 :: rest => (hexadecimal? 8 rest).map fun width => (width + 1, 1)
  | _ :: _ => some (1, 2)

/-- Counts characters after some bytes that have been read already. -/
def countFrom? (escape? : List Nat → Option (Nat × Nat)) : Nat → List Nat → Option Nat
  | _, [] => some 0
  | skipped + 1, _ :: rest => countFrom? escape? skipped rest
  | 0, byte :: rest =>
    if byte == 0x5C then
      match escape? rest with
      | some (width, characters) => (countFrom? escape? width rest).map (· + characters)
      | none => none
    else (countFrom? escape? 0 rest).map (· + 1)

/-- The number of characters that bytes with escapes stand for. -/
def count? (bytes : List UInt8) : Option Nat := countFrom? escape? 0 (bytes.map (·.toNat))

/-- The number of characters that bytes with escapes by number stand for. -/
def countRaw? (bytes : List UInt8) : Option Nat := countFrom? rawEscape? 0 (bytes.map (·.toNat))

end RecordCheck.Text.Encoding.Escaped
