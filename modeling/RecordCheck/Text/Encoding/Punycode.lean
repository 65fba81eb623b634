import RecordCheck.Text.Encoding.Flaw

/-!
# Text as ASCII letters and insertions

An encoding of any text in letters, digits and hyphens: the ASCII characters as they are, a hyphen,
and then numbers in base 36 that tell, in ascending order, which other character is inserted where.
How many digits a number has depends on thresholds that adapt to the numbers before it.

## Main definitions

* `Punycode.decode`: the code points of a text.
-/
set_option autoImplicit false

namespace RecordCheck.Text.Encoding.Punycode

/-- The value of a digit of base 36. -/
def digit? (byte : Nat) : Option Nat :=
  if 0x41 ≤ byte && byte ≤ 0x5A then some (byte - 0x41)
  else if 0x61 ≤ byte && byte ≤ 0x7A then some (byte - 0x61)
  else if 0x30 ≤ byte && byte ≤ 0x39 then some (byte - 0x30 + 26)
  else none

/-- The digits below the threshold end a number. -/
def threshold (place bias : Nat) : Nat := max 1 (min 26 (36 * (place + 1) - bias))

/-- Divides a number by 35 until it is small, and counts the divisions. -/
def reduce (divisions number : Nat) : Nat × Nat :=
  if 455 < number then reduce (divisions + 1) (number / 35) else (divisions, number)
termination_by number
decreasing_by exact Nat.div_lt_self (by omega) (by omega)

/-- The bias after a number, given the length of the text that it made. -/
def adapt (number : Nat) (isFirst : Bool) (length : Nat) : Nat :=
  let start := if isFirst then number / 700 else number / 2
  let (divisions, rest) := reduce 0 (start + start / length)
  36 * divisions + 36 * rest / (rest + 38)

/-- A text with insertions made so far, and the number that is being read. -/
structure Reading where
  text : List Nat
  /-- The character that was inserted last. -/
  code : Nat
  /-- The position behind the one of the last insertion. -/
  next : Nat
  bias : Nat
  isFirst : Bool
  /-- The number of digits of the current number, the weight of the next one, and its value. -/
  place : Nat
  weight : Nat
  value : Nat
deriving DecidableEq, Repr

/-- The text in front of all insertions. -/
def Reading.start (text : List Nat) : Reading := ⟨text, 0x80, 0, 72, true, 0, 1, 0⟩

/-- Inserts the character that a number tells. -/
def Reading.insert? (r : Reading) (number : Nat) : Option Reading :=
  let positions := r.text.length + 1
  let code := r.code + (r.next + number) / positions
  let position := (r.next + number) % positions
  if code < 0x110000 then
    some ⟨r.text.take position ++ code :: r.text.drop position, code, position + 1,
      adapt number r.isFirst positions, false, 0, 1, 0⟩
  else none

/-- Takes a digit in. -/
def Reading.push? (r : Reading) (digit : Nat) : Option Reading :=
  let value := r.value + digit * r.weight
  let bound := threshold r.place r.bias
  if digit < bound then r.insert? value
  else some { r with place := r.place + 1, weight := r.weight * (36 - bound), value }

/-- Makes the insertions that a sequence of digits tells. -/
def insertAll? (r : Reading) : List Nat → Option (List Nat)
  | [] => if r.place == 0 then some r.text else none
  | byte :: rest => do
    let digit ← digit? byte
    insertAll? (← r.push? digit) rest

/-- The ASCII characters in front of the last hyphen, if there is one, and what follows. -/
def parts (bytes : List Nat) : Option (List Nat) × List Nat :=
  let digits := (bytes.reverse.takeWhile (· != 0x2D)).reverse
  if digits.length < bytes.length then
    (some (bytes.take (bytes.length - digits.length - 1)), digits)
  else (none, digits)

/-- The code points that bytes stand for. -/
def decode (bytes : List Nat) : Except Flaw (List Nat) :=
  if bytes.all (· < 0x80) then
    let (plain, digits) := parts bytes
    match insertAll? (.start (plain.getD [])) digits with
    | some text => .ok text
    | none => .error .unsuitable
  else .error .malformed

/-- The number of characters that bytes stand for. -/
def count (bytes : List UInt8) : Except Flaw Nat :=
  (decode (bytes.map (·.toNat))).map (·.length)

end RecordCheck.Text.Encoding.Punycode
