import RecordCheck.Number.Shortest
import RecordCheck.Text.Blank
import RecordCheck.Text.Case
import RecordCheck.Text.Digit

/-!
# Numbers as text

Whole numbers and doubles are read from text with blanks around it, a sign, decimal digits of any
script and single underscores between digits. Whole numbers are read and written with at most
`integerDigitLimit` digits.
-/
set_option autoImplicit false

namespace RecordCheck

/-- The greatest number of digits that a whole number is read or written with. -/
def integerDigitLimit : Nat := 4300

namespace Reading

/-- A digit of any script as the ASCII digit of the same value; other characters stay. -/
def plainDigit (c : Char) : Char :=
  match Text.digitValue? c.toNat with
  | some d => Char.ofNat (48 + d)
  | none => c

/-- The text of a number without the blanks around it and with ASCII digits. -/
def prepare (cs : List Char) : List Char :=
  (Text.trim Text.isNumberBlank cs).map plainDigit

/-- Splits off one sign. -/
def sign : List Char → Bool × List Char
  | '-' :: cs => (true, cs)
  | '+' :: cs => (false, cs)
  | cs => (false, cs)

/-- Digits with single underscores between them, as the values of the digits. -/
def digitRun? : List Char → Option (List Nat)
  | [] => none
  | [c] => (Text.asciiDigit? c).map ([·])
  | c :: '_' :: cs =>
    match Text.asciiDigit? c, digitRun? cs with
    | some d, some ds => some (d :: ds)
    | _, _ => none
  | c :: cs =>
    match Text.asciiDigit? c, digitRun? cs with
    | some d, some ds => some (d :: ds)
    | _, _ => none

/-- The number that a sequence of decimal digits stands for. -/
def ofDigits (ds : List Nat) : Nat := ds.foldl (fun n d => 10 * n + d) 0

/-- The number that a sequence of ASCII digits stands for; other characters are skipped. -/
def ofDigitText (cs : List Char) : Nat := ofDigits (cs.filterMap Text.asciiDigit?)

def isAsciiDigit (c : Char) : Bool := (Text.asciiDigit? c).isSome

/-- Takes out the underscores of a text, each of which must stand between two digits. -/
def dropBreaks? : List Char → Option (List Char)
  | [] => some []
  | c :: '_' :: d :: cs =>
    if isAsciiDigit c && isAsciiDigit d then (dropBreaks? (d :: cs)).map (c :: ·) else none
  | c :: cs => if c == '_' then none else (dropBreaks? cs).map (c :: ·)

/-- The exponent at the end of a decimal: nothing, or `e`, a sign and digits. -/
def exponent? : List Char → Option Int
  | [] => some 0
  | c :: cs =>
    if c == 'e' || c == 'E' then
      let (negative, ds) := sign cs
      if ds.isEmpty || !ds.all isAsciiDigit then none
      else some (if negative then -(ofDigitText ds : Int) else ofDigitText ds)
    else none

/-- A decimal without sign: digits with a point among them, at least one digit, and an exponent. -/
def decimal? (cs : List Char) : Option Decimal :=
  let whole := cs.takeWhile isAsciiDigit
  let afterWhole := cs.dropWhile isAsciiDigit
  let (fraction, rest) := match afterWhole with
    | '.' :: ds => (ds.takeWhile isAsciiDigit, ds.dropWhile isAsciiDigit)
    | ds => ([], ds)
  if whole.isEmpty && fraction.isEmpty then none
  else (exponent? rest).map fun e => ⟨ofDigitText (whole ++ fraction), e - fraction.length⟩

/-- Whether two texts are the same when the case of ASCII letters is ignored. -/
def sameWord (cs : List Char) (word : String) : Bool :=
  cs.map (fun c => Text.asciiLower c.toNat) == word.toList.map (fun c => Text.asciiLower c.toNat)

end Reading

open Reading

/-- Reads a whole number. -/
def readInteger? (cs : List Char) : Option Int :=
  let (negative, rest) := sign (prepare cs)
  match digitRun? rest with
  | some ds =>
    if ds.length ≤ integerDigitLimit then
      some (if negative then -(ofDigits ds : Int) else ofDigits ds)
    else none
  | none => none

/-- Reads a double: a decimal, or one of the words for infinity and NaN. -/
def readFloat? (cs : List Char) : Option Binary64 :=
  let (negative, rest) := sign (prepare cs)
  if sameWord rest "inf" || sameWord rest "infinity" then some (.infinite negative)
  else if sameWord rest "nan" then some (.nan 0)
  else match (dropBreaks? rest).bind decimal? with
    | some d => some (.ofDecimal negative d.digits d.exponent)
    | none => none

/-- The decimal text of a whole number, unless it has too many digits. -/
def integerText? (n : Int) : Option String :=
  let digits := Decimal.digitText n.natAbs
  if digits.length ≤ integerDigitLimit then
    some (String.ofList (if n < 0 then '-' :: digits else digits))
  else none

end RecordCheck
