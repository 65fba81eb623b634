import RecordCheck.Code
import RecordCheck.Ledger
import RecordCheck.Number.Reading

/-!
# Rules that compare scalars

A scalar is compared with an operand: with accepted values, with bounds for numbers, with a way of
writing numbers, or with another field of the record. Accepted values and other fields must agree in
kind too, so `1`, `1.0` and `true` are all different. Bounds are compared exactly, and numbers in
text count as numbers. An operand may be a stream: accepted values are then taken from it up to the
first that agrees, and bounds are taken from it once.

## Main definitions

* `Comparison`: an operator with its operand, `Comparison.judge`, and `Comparison.apply`.
* `Comparison.oneOf`, `equalTo`, `atMost`, `atLeast`, `within`, `sameAs`: the rules with an operand.
-/
set_option autoImplicit false

namespace RecordCheck

/-- The ways of comparing. -/
inductive Comparison.Operator where
  | oneOf | equalTo | atMost | atLeast | within
  | integer | positiveInteger | decimal | positiveDecimal
  | sameAs
  | unknown (operator : Value)
deriving Repr

/-- A comparison with an operand. -/
structure Comparison where
  operator : Comparison.Operator
  operand : Value := .null
deriving Repr

namespace Comparison

/-- The word that an operator is written as. -/
def Operator.toValue : Operator → Value
  | .oneOf => .str "in"
  | .equalTo => .str "eq"
  | .atMost => .str "lt"
  | .atLeast => .str "gt"
  | .within => .str "bt"
  | .integer => .str "int"
  | .positiveInteger => .str "+int"
  | .decimal => .str "float"
  | .positiveDecimal => .str "+float"
  | .sameAs => .str "eqf"
  | .unknown operator => operator

def Operator.ofValue : Value → Operator
  | .str "in" => .oneOf
  | .str "eq" => .equalTo
  | .str "lt" => .atMost
  | .str "gt" => .atLeast
  | .str "bt" => .within
  | .str "int" => .integer
  | .str "+int" => .positiveInteger
  | .str "float" => .decimal
  | .str "+float" => .positiveDecimal
  | .str "eqf" => .sameAs
  | operator => .unknown operator

/-! ## Numbers -/

/-- The number that a scalar reads as. Truth values and NaN are no numbers. -/
def numberOf? : Value → Option Number
  | .int n => some (.int n)
  | .float (.nan _) => none
  | .float x => some (.float x)
  | .str s =>
    match readFloat? s.toList with
    | some (.nan _) | none => none
    | some x => some (.float x)
  | _ => none

/-- A limit of a rule, which must be a number. -/
def limit (rule : String) (v : Value) : Except Error Number :=
  match numberOf? v with
  | some n => .ok n
  | none => do throw (.limitShape rule (← Error.quotedOf v))

/-- Whether text is a whole number: any signs, then ASCII digits. -/
def isIntegerText (cs : List Char) : Bool :=
  let ds := cs.dropWhile fun c => c == '-' || c == '+'
  !ds.isEmpty && ds.all Reading.isAsciiDigit

/-- Whether a value is a whole number or the text of one. -/
def isInteger : Value → Bool
  | .int _ => true
  | .str s => isIntegerText s.toList
  | _ => false

/-- The whole number that a value stands for; text with more than one sign stands for zero. -/
def integerOf : Value → Int
  | .int n => n
  | .str s => (readInteger? s.toList).getD 0
  | _ => 0

/-- The double that text stands for, if the text is just how that double is written. -/
def decimalOf? (s : String) : Option Binary64 :=
  match readFloat? s.toList with
  | some x => if x.isFinite && x.bareText == s.toList then some x else none
  | none => none

/-- The double that a value is or stands for. -/
def floatOf? : Value → Option Binary64
  | .float x => some x
  | .str s => decimalOf? s
  | _ => none

/-! ## Application -/

/-- A limit inside a rule that was put together by hand. -/
def boundOf (operand : Value) : Except Error Number :=
  match operand.number? with
  | some n => .ok n
  | none => .error .wrongType

/-- The lower and the upper limit in an operand. -/
def boundsOf (operand : Value) : Except Error (Value × Value) :=
  match operand.members? with
  | some [low, high] => .ok (low, high)
  | some _ => .error .badValue
  | none => .error .wrongType

/-- The code for a number above a limit. -/
def above (high : Value) (n : Number) : Except Error (Option String) := do
  return if (← boundOf high).lt n then some Code.tooHigh else none

/-- The code for a number below a limit. -/
def below (low : Value) (n : Number) : Except Error (Option String) := do
  return if n.lt (← boundOf low) then some Code.tooLow else none

/-- The code for a number outside of two limits. -/
def outside (operand : Value) (n : Number) : Except Error (Option String) := do
  let (low, high) ← boundsOf operand
  match ← above high n with
  | some code => return some code
  | none => below low n

/-- The code of a test of the number that a value reads as. -/
def onNumber (v : Value) (test : Number → Except Error (Option String)) :
    Except Error (Option String) :=
  match numberOf? v with
  | some n => test n
  | none => .ok (some Code.formatError)

/-- Whether a value agrees in kind and value with one of those that are accepted. -/
def isAccepted (operand v : Value) : Except Error Bool :=
  match operand.members? with
  | some accepted => .ok (accepted.any fun w => v.strictlySame w)
  | none => .error .wrongType

/-- The code for a value that must agree with another field; without a record that field is null. -/
def againstField (field v record : Value) : Except Error (Option String) :=
  let other := match record with
    | .null => some .null
    | record => record.field? field
  match other with
  | none => .error .wrongType
  | some w => .ok (if v.strictlySame w then none else some Code.fieldsNotEqual)

/-- The code if a test has failed. -/
def codeUnless (passed : Bool) (code : String) : Option String := if passed then none else some code

/-- The code that is reported for a scalar, if any. -/
def onScalar (c : Comparison) (v record : Value) : Except Error (Option String) :=
  match c.operator with
  | .oneOf => (isAccepted c.operand v).map (codeUnless · Code.notAllowedValue)
  | .equalTo => .ok (codeUnless (v.strictlySame c.operand) Code.notAllowedValue)
  | .atMost => onNumber v (above c.operand)
  | .atLeast => onNumber v (below c.operand)
  | .within => onNumber v (outside c.operand)
  | .integer => .ok (codeUnless (isInteger v) Code.notInteger)
  | .positiveInteger =>
    .ok (codeUnless (isInteger v && decide (0 < integerOf v)) Code.notPositiveInteger)
  | .decimal => .ok (codeUnless (floatOf? v).isSome Code.notDecimal)
  | .positiveDecimal =>
    .ok (codeUnless (((floatOf? v).map fun x => (Number.int 0).lt (.float x)).getD false)
      Code.notPositiveDecimal)
  | .sameAs => againstField c.operand v record
  | .unknown operator => do throw (.unknownOperator "compare" (← Error.textOf operator))

/-- The code that is reported for a value of a record, if any. Null can only agree with another
field. -/
def judge (c : Comparison) (v record : Value) : Except Error (Option String) :=
  if v.isScalar then c.onScalar v record
  else match c.operator, v with
    | .sameAs, .null => againstField c.operand v record
    | _, _ => .ok (some Code.formatError)

/-- How many of the entries that its operand has left a comparison looks at. To see that there are
two bounds it asks for a third. -/
def reach (operator : Operator) (v : Value) (left : List Value) : Nat :=
  match operator with
  | .oneOf =>
    if v.isScalar then min ((left.takeWhile fun w => !v.strictlySame w).length + 1) left.length
    else 0
  | .within => if v.isScalar && (numberOf? v).isSome then min 3 left.length else 0
  | _ => 0

/-- Reports the code for a value of a record, if any. -/
def apply (c : Comparison) (v record : Value) : Act (Option String) := do
  match c.operator, c.operand with
  | .oneOf, .stream serial entries | .within, .stream serial entries =>
    let left ← Value.left serial entries
    modify fun ledger => ledger.take serial (reach c.operator v left)
    { c with operand := .tuple left }.judge v record
  | _, _ => c.judge v record

/-! ## Rules with an operand -/

/-- Accepts the values that are met in a walk through the given one. -/
def oneOf (values : Value) : Act Comparison := do return ⟨.oneOf, .tuple (← values.walk)⟩

def equalTo (v : Value) : Comparison := ⟨.equalTo, v⟩

def atMost (v : Value) : Except Error Comparison :=
  (limit "max_number" v).map fun n => ⟨.atMost, .ofNumber n⟩

def atLeast (v : Value) : Except Error Comparison :=
  (limit "min_number" v).map fun n => ⟨.atLeast, .ofNumber n⟩

/-- Limits in either order, both included. -/
def within (a b : Value) : Except Error Comparison := do
  let m ← limit "number_between" a
  let n ← limit "number_between" b
  let (low, high) := if n.lt m then (n, m) else (m, n)
  return ⟨.within, .tuple [.ofNumber low, .ofNumber high]⟩

def sameAs (field : Value) : Comparison := ⟨.sameAs, field⟩

end Comparison

end RecordCheck
