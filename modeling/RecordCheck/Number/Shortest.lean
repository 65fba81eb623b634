import RecordCheck.Number.Binary64

/-!
# The decimal text of a double

A double is written with the fewest digits that read back as the same double; of the decimals with
that many digits the nearest one is taken, and of two equally near the even one. Exponents from -4
to 15 are written out in full, all others with a power of ten.
-/
set_option autoImplicit false

namespace RecordCheck

/-- A positive decimal number, `digits * 10^exponent`. -/
structure Decimal where
  digits : Nat
  exponent : Int
deriving DecidableEq, Repr

namespace Decimal

/-- The decimal digits of a natural number, most significant first. -/
def digitText (n : Nat) : List Char := Nat.toDigits 10 n

/-- Moves zeros at the end of the digits into the exponent, at most `fuel` of them. -/
def dropZeros : Nat → Decimal → Decimal
  | 0, d => d
  | fuel + 1, d =>
    if d.digits % 10 == 0 && d.digits != 0 then dropZeros fuel ⟨d.digits / 10, d.exponent + 1⟩
    else d

/-- The same number without zeros at the end of its digits. -/
def normal (d : Decimal) : Decimal := dropZeros (digitText d.digits).length d

end Decimal

namespace Binary64

/-- The power of ten of the leading digit of a positive number of units. -/
def leadingExponent (units : Nat) : Int :=
  if one ≤ units then ((Decimal.digitText (units / one)).length : Int) - 1
  else -(((List.range 324).find? fun k => one ≤ units * Nat.pow 10 k).getD 324 : Nat)

/-- The two neighbours of a positive number among the multiples of `10^exponent`: the multiple at or
below it, and whether the next one is nearer (an exact tie goes to the even multiple). -/
def neighbours (units : Nat) (exponent : Int) : Nat × Bool :=
  let (num, den) : Nat × Nat := match exponent with
    | .ofNat e => (units, one * Nat.pow 10 e)
    | .negSucc e => (units * Nat.pow 10 (e + 1), one)
  let low := num / den
  let rest := num % den
  (low, den < 2 * rest || (den == 2 * rest && low % 2 == 1))

/-- The decimal with the given number of digits that reads back as the double, if there is one. -/
def decimalOf? (units count : Nat) : Option Decimal :=
  let exponent := leadingExponent units - count + 1
  let (low, upper) := neighbours units exponent
  let readsBack (n : Nat) := (ofDecimal false n exponent) == ofUnits false units
  let chosen := if upper then [low + 1, low] else [low, low + 1]
  (chosen.find? readsBack).map fun n => ⟨n, exponent⟩

/-- The shortest decimal that reads back as a double with the given magnitude. Seventeen digits
always suffice. -/
def shortest (units : Nat) : Decimal :=
  let found := (List.range 17).findSome? fun k => decimalOf? units (k + 1)
  (found.getD ⟨units, -1074⟩).normal

/-- A positive decimal in full or with a power of ten, whichever its leading exponent calls for. -/
def layout (d : Decimal) : List Char :=
  let digits := Decimal.digitText d.digits
  let leading : Int := digits.length + d.exponent - 1
  if -4 ≤ leading && leading < 16 then
    if 0 ≤ d.exponent then digits ++ List.replicate d.exponent.toNat '0' ++ ['.', '0']
    else if 0 ≤ leading then
      digits.take (leading + 1).toNat ++ '.' :: digits.drop (leading + 1).toNat
    else '0' :: '.' :: List.replicate (-leading - 1).toNat '0' ++ digits
  else
    let power := Decimal.digitText leading.natAbs
    let padded := if power.length < 2 then '0' :: power else power
    let mantissa := digits.take 1 ++ (if digits.length == 1 then [] else '.' :: digits.drop 1)
    mantissa ++ ['e', if leading < 0 then '-' else '+'] ++ padded

/-- The text of a double: `1.5`, `1e+16`, `-0.0`, `inf`, `nan`. -/
def text : Binary64 → String
  | .finite negative units _ =>
    let magnitude := if units = 0 then ['0', '.', '0'] else layout (shortest units)
    String.ofList (if negative then '-' :: magnitude else magnitude)
  | .infinite negative => if negative then "-inf" else "inf"
  | .nan _ => "nan"

/-- The text of a double with `.0` at the end left out, as `12` for `12.0`. -/
def bareText (x : Binary64) : List Char :=
  let cs := x.text.toList
  if ['.', '0'].isSuffixOf cs then cs.take (cs.length - 2) else cs

end Binary64

end RecordCheck
