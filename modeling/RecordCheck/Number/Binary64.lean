/-!
# Double precision numbers as exact values

A finite double is a whole number of units of `2^-1074`, the smallest step there is, together with
a sign (which tells `-0.0` from `0.0`). Comparison is then comparison of integers, with nothing
rounded. `Binary64.nearest` is the only place where a value is rounded: it gives the double nearest
to a quotient, and of two equally near the one with the even last digit.
-/
set_option autoImplicit false

namespace RecordCheck

/-- A whole number of units is a double when it has at most 53 significant binary digits and stays
below `2^1024`. -/
def Binary64.Representable (units : Nat) : Prop :=
  units.log2 < 2098 ∧ Nat.pow 2 (units.log2 - 52) ∣ units

instance (units : Nat) : Decidable (Binary64.Representable units) :=
  inferInstanceAs (Decidable (_ ∧ _))

/-- A floating point number of double precision. The payload of a NaN tells it from others; zero is
that of a NaN which nothing is known about. -/
inductive Binary64 where
  | finite (negative : Bool) (units : Nat) (representable : Binary64.Representable units)
  | infinite (negative : Bool)
  | nan (payload : Nat)
deriving DecidableEq, Repr

/-- A point of the number line with both ends added, in units of `2^-1074`. -/
inductive Extended where
  | minusInfinity
  | finite (units : Int)
  | plusInfinity
deriving DecidableEq, Repr

/-- The order of the extended number line. -/
def Extended.lt : Extended → Extended → Bool
  | .minusInfinity, .minusInfinity => false
  | .minusInfinity, _ => true
  | .finite a, .finite b => a < b
  | .finite _, .plusInfinity => true
  | _, _ => false

namespace Binary64

/-- How many units make up the number one. -/
def one : Nat := Nat.pow 2 1074

def zero (negative : Bool) : Binary64 := .finite negative 0 (by decide)

/-- The exact place of a double on the number line; NaN has none. -/
def value : Binary64 → Option Extended
  | .finite negative units _ => some (.finite (if negative then -(units : Int) else units))
  | .infinite negative => some (if negative then .minusInfinity else .plusInfinity)
  | .nan _ => none

def isFinite : Binary64 → Bool
  | .finite .. => true
  | _ => false

/-- The sign of a double whose magnitude has the given number of units. What is not representable
is too large, because `nearest` has rounded before. -/
def ofUnits (negative : Bool) (units : Nat) : Binary64 :=
  if h : Representable units then .finite negative units h else .infinite negative

/-- The units nearest to `num / den`, of two equally near the even one. -/
def nearestUnits (num den : Nat) : Nat :=
  let scaled := num * one
  let grain := Nat.pow 2 ((scaled / den).log2 - 52)
  let step := den * grain
  let kept := scaled / step
  let rest := scaled % step
  let up := step < 2 * rest || (step == 2 * rest && kept % 2 == 1)
  (if up then kept + 1 else kept) * grain

/-- The double nearest to `num / den`. -/
def nearest (negative : Bool) (num den : Nat) : Binary64 :=
  ofUnits negative (nearestUnits num den)

/-- The double nearest to `digits * 10^exponent`. The first two tests only spare the arithmetic on
powers that are sure to overflow or to vanish: `10^e` is at least `2^(3e)`, and `digits` is below
`2^(log2 digits + 1)`. -/
def ofDecimal (negative : Bool) (digits : Nat) (exponent : Int) : Binary64 :=
  if digits = 0 then zero negative
  else if 1024 ≤ 3 * exponent then .infinite negative
  else if (digits.log2 : Int) + 1 + 3 * exponent < -1076 then zero negative
  else match exponent with
    | .ofNat e => nearest negative (digits * Nat.pow 10 e) 1
    | .negSucc e => nearest negative digits (Nat.pow 10 (e + 1))

/-- The whole part, rounded toward zero; only a finite double has one. -/
def truncate? : Binary64 → Option Int
  | .finite negative units _ =>
    let whole : Int := (units / one : Nat)
    some (if negative then -whole else whole)
  | _ => none

end Binary64

/-- A number of the kinds that a record can hold: a whole number of any size, or a double. -/
inductive Number where
  | int (n : Int)
  | float (x : Binary64)
deriving DecidableEq, Repr

namespace Number

/-- The exact place of a number on the number line; NaN has none. -/
def value : Number → Option Extended
  | .int n => some (.finite (n * Binary64.one))
  | .float x => x.value

/-- Exact comparison; NaN is not below anything, nor is anything below it. -/
def lt (a b : Number) : Bool :=
  match a.value, b.value with
  | some x, some y => x.lt y
  | _, _ => false

/-- Equality of value: `1` and `1.0` are equal, and NaN equals nothing. -/
def same (a b : Number) : Bool :=
  match a.value, b.value with
  | some x, some y => x == y
  | _, _ => false

end Number

end RecordCheck
