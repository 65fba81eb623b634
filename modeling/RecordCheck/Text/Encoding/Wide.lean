/-!
# Units of two and four bytes

How many characters a text has that is written in units of sixteen or of thirty-two bits.

## Main definitions

* `Order`: which byte of a unit comes first.
* `count16?`, `count32?`: the number of characters in bytes of a given order.
* `countMarked16?`, `countMarked32?`: the same where a mark at the start tells the order.
-/
set_option autoImplicit false

namespace RecordCheck.Text.Encoding

/-- The byte of a unit that comes first. -/
inductive Order where
  | lowest | highest
deriving DecidableEq, Repr

namespace Order

/-- Groups bytes into units of two; `none` when a byte is left over. -/
def pairs? (order : Order) : List UInt8 → Option (List Nat)
  | [] => some []
  | a :: b :: rest =>
    let unit := match order with
      | .highest => a.toNat * 256 + b.toNat
      | .lowest => b.toNat * 256 + a.toNat
    (order.pairs? rest).map (unit :: ·)
  | _ => none

/-- The number of characters in units of sixteen bits, where high and low surrogates pair up. -/
def countUnits16? : List Nat → Option Nat
  | [] => some 0
  | u :: rest =>
    if u < 0xD800 || 0xE000 ≤ u then (countUnits16? rest).map (· + 1)
    else if u < 0xDC00 then
      match rest with
      | v :: rest => if 0xDC00 ≤ v && v < 0xE000 then (countUnits16? rest).map (· + 1) else none
      | [] => none
    else none

/-- The number of characters in units of thirty-two bits, given as pairs of half units. -/
def countUnits32? (order : Order) : List Nat → Option Nat
  | [] => some 0
  | a :: b :: rest =>
    let code := match order with
      | .highest => a * 0x10000 + b
      | .lowest => b * 0x10000 + a
    if code < 0x110000 && !(0xD800 ≤ code && code < 0xE000) then
      (order.countUnits32? rest).map (· + 1)
    else none
  | _ => none

def count16? (order : Order) (bytes : List UInt8) : Option Nat :=
  (order.pairs? bytes).bind countUnits16?

def count32? (order : Order) (bytes : List UInt8) : Option Nat :=
  (order.pairs? bytes).bind order.countUnits32?

end Order

/-- Counts units of sixteen bits in the order that a mark tells; without one the lowest byte comes
first. -/
def countMarked16? (bytes : List UInt8) : Option Nat :=
  if [0xFF, 0xFE].isPrefixOf bytes then Order.lowest.count16? (bytes.drop 2)
  else if [0xFE, 0xFF].isPrefixOf bytes then Order.highest.count16? (bytes.drop 2)
  else Order.lowest.count16? bytes

/-- Counts units of thirty-two bits in the order that a mark tells; without one the lowest byte
comes first. -/
def countMarked32? (bytes : List UInt8) : Option Nat :=
  if [0xFF, 0xFE, 0, 0].isPrefixOf bytes then Order.lowest.count32? (bytes.drop 4)
  else if [0, 0, 0xFE, 0xFF].isPrefixOf bytes then Order.highest.count32? (bytes.drop 4)
  else Order.lowest.count32? bytes

end RecordCheck.Text.Encoding
