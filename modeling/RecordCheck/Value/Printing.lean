import RecordCheck.Number.Reading
import RecordCheck.Text.Quoted
import RecordCheck.Value.Basic

/-!
# Values as text

The text of a value in messages. There is none when a whole number in it has too many digits.
-/
set_option autoImplicit false

namespace RecordCheck.Value

mutual

/-- The text of a value with text inside it quoted. -/
def quoted? : Value → Option String
  | .null => some "None"
  | .bool b => some (if b then "True" else "False")
  | .int n => integerText? n
  | .float x => some x.text
  | .str s => some (Text.quoted s)
  | .brokenStr codes => some (Text.quotedCodes codes)
  | .bytes data => some (Text.quotedBytes data)
  | .bytearray data => some ("bytearray(" ++ Text.quotedBytes data ++ ")")
  | .items .list entries => (quotedItems? entries).map fun ts => "[" ++ ", ".intercalate ts ++ "]"
  | .items .tuple entries => (quotedItems? entries).map fun ts =>
    "(" ++ ", ".intercalate ts ++ (if ts.length == 1 then ",)" else ")")
  | .items .set entries => (quotedItems? entries).map fun ts =>
    if ts.isEmpty then "set()" else "\x7b" ++ ", ".intercalate ts ++ "\x7d"
  | .items .frozenset entries => (quotedItems? entries).map fun ts =>
    if ts.isEmpty then "frozenset()" else "frozenset(\x7b" ++ ", ".intercalate ts ++ "\x7d)"
  | .stream .. => some "<generator>"
  | .object attributes => (quotedAttributes? attributes).map fun ts =>
    "namespace(" ++ ", ".intercalate ts ++ ")"
  | .dict entries => (quotedEntries? entries).map fun ts =>
    "\x7b" ++ ", ".intercalate ts ++ "\x7d"
  | .other _ text => some text

def quotedItems? : List Value → Option (List String)
  | [] => some []
  | v :: vs => do
    let t ← v.quoted?
    let ts ← quotedItems? vs
    some (t :: ts)

def quotedAttributes? : List (String × Value) → Option (List String)
  | [] => some []
  | (name, v) :: rest => do
    let t ← v.quoted?
    let ts ← quotedAttributes? rest
    some ((name ++ "=" ++ t) :: ts)

def quotedEntries? : List (Value × Value) → Option (List String)
  | [] => some []
  | (k, v) :: rest => do
    let s ← k.quoted?
    let t ← v.quoted?
    let ts ← quotedEntries? rest
    some ((s ++ ": " ++ t) :: ts)

end

/-- The text of a value; text stands for itself. -/
def text? : Value → Option String
  | .str s => some s
  | v => v.quoted?

end RecordCheck.Value
