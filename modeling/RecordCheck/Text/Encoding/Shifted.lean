/-!
# Text in seven bits with shifts

An encoding for channels that carry ASCII only. A plus sign opens a stretch in base 64 whose bits
are units of sixteen bits; a hyphen or any other character outside of base 64 ends it. A plus sign
and a hyphen together stand for a plus sign.

## Main definitions

* `Shifted.count?`: the number of characters.
-/
set_option autoImplicit false

namespace RecordCheck.Text.Encoding.Shifted

/-- The six bits of a digit of base 64. -/
def digit? (byte : Nat) : Option Nat :=
  if 0x41 ≤ byte && byte ≤ 0x5A then some (byte - 0x41)
  else if 0x61 ≤ byte && byte ≤ 0x7A then some (byte - 0x61 + 26)
  else if 0x30 ≤ byte && byte ≤ 0x39 then some (byte - 0x30 + 52)
  else if byte == 0x2B then some 62
  else if byte == 0x2F then some 63
  else none

/-- A stretch in base 64: the bits that no unit has used yet, and whether the last unit was a high
surrogate, which waits for its partner. -/
structure Stretch where
  bits : Nat
  value : Nat
  waiting : Bool
deriving DecidableEq, Repr

/-- The stretch in front of its first digit. -/
def Stretch.start : Stretch := ⟨0, 0, false⟩

/-- Takes a digit in, and tells the number of characters that it completes. -/
def Stretch.push (s : Stretch) (digit : Nat) : Stretch × Nat :=
  let bits := s.bits + 6
  let value := s.value * 64 + digit
  if bits < 16 then ({ s with bits, value }, 0)
  else
    let unit := value / Nat.pow 2 (bits - 16)
    let left := value % Nat.pow 2 (bits - 16)
    if s.waiting && 0xDC00 ≤ unit && unit < 0xE000 then (⟨bits - 16, left, false⟩, 1)
    else
      let alone := if s.waiting then 1 else 0
      if 0xD800 ≤ unit && unit < 0xDC00 then (⟨bits - 16, left, true⟩, alone)
      else (⟨bits - 16, left, false⟩, alone + 1)

/-- Whether the bits that are left over are padding: fewer than a digit, and all zero. -/
def Stretch.isComplete (s : Stretch) : Bool := s.bits < 6 && s.value == 0

/-- Counts characters, within a stretch or outside of one. A high surrogate without a partner counts
where something follows it, and makes the text malformed at its end. -/
def countFrom? : Option Stretch → List Nat → Option Nat
  | none, [] => some 0
  | some s, [] => if s.isComplete && !s.waiting then some 0 else none
  | none, byte :: rest =>
    if byte == 0x2B then
      match rest with
      | [] => some 0
      | next :: after =>
        if next == 0x2D then (countFrom? none after).map (· + 1)
        else match digit? next with
          | some digit =>
            let (s, done) := Stretch.start.push digit
            (countFrom? (some s) after).map (· + done)
          | none => none
    else if byte < 0x80 then (countFrom? none rest).map (· + 1)
    else none
  | some s, byte :: rest =>
    match digit? byte with
    | some digit =>
      let (s, done) := s.push digit
      (countFrom? (some s) rest).map (· + done)
    | none =>
      if s.isComplete && byte < 0x80 then
        let alone := if s.waiting then 1 else 0
        let itself := if byte == 0x2D then 0 else 1
        (countFrom? none rest).map (· + (alone + itself))
      else none

/-- The number of characters that bytes stand for. -/
def count? (bytes : List UInt8) : Option Nat := countFrom? none (bytes.map (·.toNat))

end RecordCheck.Text.Encoding.Shifted
