import RecordCheck.Text.Printable

/-!
# Quoted text

Text and bytes between quotes. Single quotes are used unless the content has single quotes and no
double ones. Characters that do not print are written as escapes with two, four or eight digits.
-/
set_option autoImplicit false

namespace RecordCheck.Text

/-- A hexadecimal digit in lower case. -/
def hexDigit (n : Nat) : Char := if n < 10 then Char.ofNat (48 + n) else Char.ofNat (87 + n)

/-- The last `width` hexadecimal digits of a number. -/
def hexText (n : Nat) : Nat → List Char
  | 0 => []
  | width + 1 => hexText (n / 16) width ++ [hexDigit (n % 16)]

namespace Quoted

/-- The quote that a content is put between. -/
def quoteFor (cs : List Char) : Char :=
  if cs.contains '\'' && !cs.contains '"' then '"' else '\''

/-- The escapes that text and bytes have in common. -/
def plainEscape? (quote c : Char) : Option (List Char) :=
  if c == quote || c == '\\' then some ['\\', c]
  else if c == '\t' then some ['\\', 't']
  else if c == '\n' then some ['\\', 'n']
  else if c == '\r' then some ['\\', 'r']
  else none

/-- A character inside quoted text. -/
def textChar (quote c : Char) : List Char :=
  match plainEscape? quote c with
  | some cs => cs
  | none =>
    let n := c.toNat
    if 0x20 ≤ n && n < 0x7F then [c]
    else if 0x80 ≤ n && isPrintable n then [c]
    else if n < 0x100 then '\\' :: 'x' :: hexText n 2
    else if n < 0x10000 then '\\' :: 'u' :: hexText n 4
    else '\\' :: 'U' :: hexText n 8

/-- A byte inside quoted bytes. -/
def byteChar (quote : Char) (b : UInt8) : List Char :=
  match plainEscape? quote (Char.ofNat b.toNat) with
  | some cs => cs
  | none =>
    let n := b.toNat
    if 0x20 ≤ n && n < 0x7F then [Char.ofNat n] else '\\' :: 'x' :: hexText n 2

end Quoted

/-- Text between quotes. -/
def quoted (s : String) : String :=
  let cs := s.toList
  let quote := Quoted.quoteFor cs
  String.ofList (quote :: cs.flatMap (Quoted.textChar quote) ++ [quote])

/-- Code points between quotes, where surrogates without a partner are escaped. -/
def quotedCodes (codes : List Nat) : String :=
  let quote := Quoted.quoteFor (codes.map Char.ofNat)
  String.ofList (quote :: codes.flatMap (fun code =>
    if code.isValidChar then Quoted.textChar quote (Char.ofNat code)
    else '\\' :: 'u' :: hexText code 4) ++ [quote])

/-- Bytes between quotes, marked by the letter before them. -/
def quotedBytes (bytes : List UInt8) : String :=
  let quote := Quoted.quoteFor (bytes.map fun b => Char.ofNat b.toNat)
  String.ofList ('b' :: quote :: bytes.flatMap (Quoted.byteChar quote) ++ [quote])

end RecordCheck.Text
