/-!
# UTF-8

Characters as bytes and back. The reader accepts exactly the shortest form of each character and no
surrogates.
-/
set_option autoImplicit false

namespace RecordCheck.Text.Utf8

/-- The bytes of one character. -/
def encodeChar (c : Char) : List UInt8 :=
  let n := c.toNat
  if n < 0x80 then [n.toUInt8]
  else if n < 0x800 then [(0xC0 + n / 0x40).toUInt8, (0x80 + n % 0x40).toUInt8]
  else if n < 0x10000 then
    [(0xE0 + n / 0x1000).toUInt8, (0x80 + n / 0x40 % 0x40).toUInt8, (0x80 + n % 0x40).toUInt8]
  else
    [(0xF0 + n / 0x40000).toUInt8, (0x80 + n / 0x1000 % 0x40).toUInt8,
      (0x80 + n / 0x40 % 0x40).toUInt8, (0x80 + n % 0x40).toUInt8]

def encode (cs : List Char) : List UInt8 := cs.flatMap encodeChar

/-- The six bits that a byte inside a character carries, if it lies between the bounds. -/
def part? (low high : Nat) (b : UInt8) : Option Nat :=
  if low ≤ b.toNat && b.toNat ≤ high then some (b.toNat % 0x40) else none

/-- A byte inside a character that is not bound further. -/
def tail? : UInt8 → Option Nat := part? 0x80 0xBF

/-- The bounds of the second byte after a given first byte: they exclude longer forms than needed,
surrogates, and what lies above the last code point. -/
def secondBounds (first : Nat) : Nat × Nat :=
  (if first == 0xE0 then 0xA0 else if first == 0xF0 then 0x90 else 0x80,
    if first == 0xED then 0x9F else if first == 0xF4 then 0x8F else 0xBF)

/-- Reads bytes as characters; `none` when they are not UTF-8. -/
def decode? : List UInt8 → Option (List Char)
  | [] => some []
  | a :: rest =>
    let n := a.toNat
    if n < 0x80 then (decode? rest).map (Char.ofNat n :: ·)
    else if n < 0xC2 then none
    else if n < 0xE0 then
      match rest with
      | b :: rest =>
        match tail? b, decode? rest with
        | some y, some cs => some (Char.ofNat ((n - 0xC0) * 0x40 + y) :: cs)
        | _, _ => none
      | _ => none
    else if n < 0xF0 then
      match rest with
      | b :: c :: rest =>
        match part? (secondBounds n).1 (secondBounds n).2 b, tail? c, decode? rest with
        | some y, some z, some cs => some (Char.ofNat ((n - 0xE0) * 0x1000 + y * 0x40 + z) :: cs)
        | _, _, _ => none
      | _ => none
    else if n < 0xF5 then
      match rest with
      | b :: c :: d :: rest =>
        match part? (secondBounds n).1 (secondBounds n).2 b, tail? c, tail? d, decode? rest with
        | some y, some z, some w, some cs =>
          some (Char.ofNat ((n - 0xF0) * 0x40000 + y * 0x1000 + z * 0x40 + w) :: cs)
        | _, _, _, _ => none
      | _ => none
    else none

end RecordCheck.Text.Utf8
