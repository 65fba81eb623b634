import RecordCheck.Code
import RecordCheck.Error

/-!
# Rules about absent values

The only rules that are asked about null and the empty text.
-/
set_option autoImplicit false

namespace RecordCheck

/-- What a rule about absent values wants: a value, no empty text, or a list with entries. A rule
may be put together with an operator that it does not know; it fails when it is applied. -/
inductive BlankTest where
  | required
  | notEmpty
  | notEmptyList
  | unknown (operator : Value)
deriving Repr

namespace BlankTest

/-- The operator that a test is written with. -/
def operator : BlankTest → Value
  | .required => .str "required"
  | .notEmpty => .str "empty"
  | .notEmptyList => .str "list"
  | .unknown operator => operator

def ofOperator : Value → BlankTest
  | .str "required" => .required
  | .str "empty" => .notEmpty
  | .str "list" => .notEmptyList
  | operator => .unknown operator

/-- Whether a value is text without characters. -/
def isEmptyText : Value → Bool
  | .str s => s.isEmpty
  | _ => false

/-- The code for a value that should be a list with entries. -/
def listCode? (v : Value) : Option String :=
  match v with
  | .null => some Code.cannotBeEmpty
  | v =>
    if v.isScalar then some (if v.isTrue then Code.formatError else Code.cannotBeEmpty)
    else match v.size? with
      | none => some Code.formatError
      | some 0 => some Code.cannotBeEmpty
      | some _ => none

/-- The code that is reported for a value, if any. -/
def apply (test : BlankTest) (v : Value) : Except Error (Option String) :=
  match test with
  | .required => .ok (if v.isAbsent then some Code.required else none)
  | .notEmpty => .ok (if isEmptyText v then some Code.cannotBeEmpty else none)
  | .notEmptyList => .ok (listCode? v)
  | .unknown operator => do throw (.unknownOperator "blank" (← Error.textOf operator))

end BlankTest

end RecordCheck
