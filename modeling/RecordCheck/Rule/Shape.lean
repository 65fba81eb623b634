import RecordCheck.Code
import RecordCheck.Error

/-!
# Rules about the shape of values
-/
set_option autoImplicit false

namespace RecordCheck

/-- The shape that a rule wants: a scalar, or a record with names. A rule may be put together with
an operator that it does not know; it fails when it is applied. -/
inductive ShapeTest where
  | scalar
  | named
  | unknown (operator : Value)
deriving Repr

namespace ShapeTest

/-- The operator that a test is written with. -/
def operator : ShapeTest → Value
  | .scalar => .str "string"
  | .named => .str "object"
  | .unknown operator => operator

def ofOperator : Value → ShapeTest
  | .str "string" => .scalar
  | .str "object" => .named
  | operator => .unknown operator

/-- Whether a value is a mapping with a key that is text, or neither a mapping, a scalar, a list nor
null. -/
def isNamed (v : Value) : Bool :=
  match v with
  | .null => false
  | v => if v.isMapping then v.isAssociative else !(v.isScalar || v.isCollection)

/-- The code that is reported for a value, if any. -/
def apply (test : ShapeTest) (v : Value) : Except Error (Option String) :=
  match test with
  | .scalar => .ok (if v.isScalar then none else some Code.formatError)
  | .named => .ok (if isNamed v then none else some Code.formatError)
  | .unknown operator => do throw (.unknownOperator "type" (← Error.textOf operator))

end ShapeTest

end RecordCheck
