import RecordCheck.Code
import RecordCheck.Ledger
import RecordCheck.Number.Reading
import RecordCheck.Text.Encoding

/-!
# Rules about the length of text

The length of text is the number of its code points. Bytes are read as text in an encoding first.
Bounds that are a stream are taken from it once.

## Main definitions

* `Length`: an operator with its bounds and an encoding, `Length.judge`, and `Length.apply`.
* `Length.atMost`, `atLeast`, `exactly`, `between`: the rules with bounds that are whole numbers.
-/
set_option autoImplicit false

namespace RecordCheck

/-- The ways of comparing lengths. -/
inductive Length.Operator where
  | atMost | atLeast | exactly | between
  | unknown (operator : Value)
deriving Repr

/-- A comparison of the length with bounds. -/
structure Length where
  operator : Length.Operator
  bounds : Value
  encoding : Value
deriving Repr

namespace Length

/-- The word that an operator is written as. -/
def Operator.toValue : Operator → Value
  | .atMost => .str "lt"
  | .atLeast => .str "gt"
  | .exactly => .str "eq"
  | .between => .str "bt"
  | .unknown operator => operator

def Operator.ofValue : Value → Operator
  | .str "lt" => .atMost
  | .str "gt" => .atLeast
  | .str "eq" => .exactly
  | .str "bt" => .between
  | operator => .unknown operator

/-- The encoding of bytes where none is given. -/
def defaultEncoding : Value := .str "UTF-8"

/-! ## Application -/

/-- The length of bytes in an encoding; `none` when they are malformed or the encoding is not known.
No bytes are the empty text in any encoding. -/
def ofBytes (encoding : Value) (data : List UInt8) : Except Error (Option Nat) :=
  match encoding with
  | .str name =>
    if name.toList.contains '\x00' then .error .badValue
    else if data.isEmpty then .ok (some 0)
    else match Text.Encoding.ofName? name with
      | none => .ok none
      | some encoding =>
        match encoding.count data with
        | .ok length => .ok (some length)
        | .error .malformed => .ok none
        | .error .unsuitable => .error (.fault .badText)
        | .error .unsupported => .error (.fault .runtime)
  | _ => .error .wrongType

/-- The length of a value; `none` when it has none. -/
def measure (encoding : Value) : Value → Except Error (Option Nat)
  | .str s => .ok (some s.length)
  | .brokenStr codes => .ok (some codes.length)
  | .bytes data | .bytearray data => ofBytes encoding data
  | _ => .ok none

/-- A bound as a number. -/
def boundOf (v : Value) : Except Error Number :=
  match v.number? with
  | some n => .ok n
  | none => .error .wrongType

/-- The lower and the upper bound in a pair. -/
def boundsOf (v : Value) : Except Error (Value × Value) :=
  match v.members? with
  | some [low, high] => .ok (low, high)
  | some _ => .error .badValue
  | none => .error .wrongType

/-- The code for a length above a bound. -/
def above (high : Value) (length : Nat) : Except Error (Option String) := do
  return if (← boundOf high).lt (.int length) then some Code.tooLong else none

/-- The code for a length below a bound. -/
def below (low : Value) (length : Nat) : Except Error (Option String) := do
  return if (Number.int length).lt (← boundOf low) then some Code.tooShort else none

/-- The code for a length outside of two bounds. -/
def outside (low high : Value) (length : Nat) : Except Error (Option String) := do
  match ← above high length with
  | some code => return some code
  | none => below low length

/-- The code that is reported for a length, if any. -/
def onLength (l : Length) (length : Nat) : Except Error (Option String) :=
  match l.operator with
  | .atMost => above l.bounds length
  | .atLeast => below l.bounds length
  | .exactly => outside l.bounds l.bounds length
  | .between => do
    let (low, high) ← boundsOf l.bounds
    outside low high length
  | .unknown operator => do throw (.unknownOperator "length" (← Error.textOf operator))

/-- The code that is reported for a value, if any. -/
def judge (l : Length) (v : Value) : Except Error (Option String) := do
  match ← measure l.encoding v with
  | some length => l.onLength length
  | none => return some Code.formatError

/-- How many of the entries that its bounds have left a rule looks at. To see that there are two
bounds it asks for a third. -/
def reach (l : Length) (v : Value) (left : List Value) : Nat :=
  match measure l.encoding v with
  | .ok (some _) => min 3 left.length
  | _ => 0

/-- Reports the code for a value, if any. -/
def apply (l : Length) (v : Value) : Act (Option String) := do
  match l.operator, l.bounds with
  | .between, .stream serial entries =>
    let left ← Value.left serial entries
    modify fun ledger => ledger.take serial (l.reach v left)
    { l with bounds := .tuple left }.judge v
  | _, _ => l.judge v

/-! ## Rules with bounds -/

/-- The whole number that a value stands for: a number without its fraction, or the text of a whole
number. -/
def wholeOf : Value → Except Error Int
  | .int n => .ok n
  | .bool b => .ok (if b then 1 else 0)
  | .float x =>
    match x, x.truncate? with
    | _, some n => .ok n
    | .infinite _, none => .error (.fault .tooLarge)
    | _, none => .error .badValue
  | .str s => match readInteger? s.toList with
    | some n => .ok n
    | none => .error .badValue
  | .bytes data | .bytearray data =>
    if data.any fun b => 0x80 ≤ b then .error .badValue
    else match readInteger? (data.map fun b => Char.ofNat b.toNat) with
      | some n => .ok n
      | none => .error .badValue
  | _ => .error .wrongType

def atMost (length encoding : Value) : Except Error Length :=
  (wholeOf length).map fun n => ⟨.atMost, .int n, encoding⟩

def atLeast (length encoding : Value) : Except Error Length :=
  (wholeOf length).map fun n => ⟨.atLeast, .int n, encoding⟩

def exactly (length encoding : Value) : Except Error Length :=
  (wholeOf length).map fun n => ⟨.exactly, .int n, encoding⟩

/-- Bounds in either order, both included. -/
def between (a b encoding : Value) : Except Error Length := do
  let m ← wholeOf a
  let n ← wholeOf b
  return ⟨.between, .tuple [.int (min m n), .int (max m n)], encoding⟩

end Length

end RecordCheck
