import RecordCheck.Number.Reading
import RecordCheck.Text.Quoted
import RecordCheck.Value.Basic

/-!
# Values as JSON text

A value is printed on one line, with `", "` between entries and `": "` after keys, and with ASCII
characters only. Keys that are not text are turned into text. Bytes, sets, streams and objects have
no JSON text, nor has a whole number with too many digits.

## Main definitions

* `Json.escape`: the characters of a text between quotes.
* `Json.print`: the JSON text of a value.
-/
set_option autoImplicit false

namespace RecordCheck.Json

/-- Why a value has no JSON text. -/
inductive Unprintable where
  | kind
  | tooManyDigits
deriving DecidableEq, Repr

/-- An escape by the code of a unit of sixteen bits. -/
def unitEscape (unit : Nat) : List Char := '\\' :: 'u' :: Text.hexText unit 4

/-- A character inside quotes; outside the basic plane it becomes a pair of surrogates. -/
def escapeChar (c : Char) : List Char :=
  if c == '"' || c == '\\' then ['\\', c]
  else if c == '\n' then ['\\', 'n']
  else if c == '\r' then ['\\', 'r']
  else if c == '\t' then ['\\', 't']
  else if c == '\x08' then ['\\', 'b']
  else if c == '\x0c' then ['\\', 'f']
  else
    let n := c.toNat
    if 0x20 ≤ n && n < 0x7F then [c]
    else if n < 0x10000 then unitEscape n
    else unitEscape (0xD800 + (n - 0x10000) / 0x400) ++ unitEscape (0xDC00 + (n - 0x10000) % 0x400)

def escape (cs : List Char) : List Char := cs.flatMap escapeChar

/-- Text between quotes. -/
def quote (s : String) : String := String.ofList ('"' :: escape s.toList ++ ['"'])

/-- Text that is given by its code points, between quotes. -/
def quoteCodes (codes : List Nat) : String :=
  let escapeCode (code : Nat) : List Char :=
    if code.isValidChar then escapeChar (Char.ofNat code) else unitEscape code
  String.ofList ('"' :: codes.flatMap escapeCode ++ ['"'])

/-- A double, with words for infinity and NaN. -/
def number (x : Binary64) : String :=
  match x with
  | .finite .. => x.text
  | .infinite negative => if negative then "-Infinity" else "Infinity"
  | .nan _ => "NaN"

/-- The text of a whole number. -/
def integer (n : Int) : Except Unprintable String :=
  match integerText? n with
  | some t => .ok t
  | none => .error .tooManyDigits

/-- The text of a key. -/
def key : Value → Except Unprintable String
  | .str s => .ok (quote s)
  | .brokenStr codes => .ok (quoteCodes codes)
  | .null => .ok (quote "null")
  | .bool b => .ok (quote (if b then "true" else "false"))
  | .int n => (integer n).map quote
  | .float x => .ok (quote (number x))
  | _ => .error .kind

mutual

/-- The JSON text of a value. -/
def print : Value → Except Unprintable String
  | .null => .ok "null"
  | .bool b => .ok (if b then "true" else "false")
  | .int n => integer n
  | .float x => .ok (number x)
  | .str s => .ok (quote s)
  | .brokenStr codes => .ok (quoteCodes codes)
  | .items .list entries | .items .tuple entries =>
    (printItems entries).map fun ts => "[" ++ ", ".intercalate ts ++ "]"
  | .dict entries =>
    (printEntries entries).map fun ts => "\x7b" ++ ", ".intercalate ts ++ "\x7d"
  | _ => .error .kind

def printItems : List Value → Except Unprintable (List String)
  | [] => .ok []
  | v :: vs => do
    let t ← print v
    let ts ← printItems vs
    return t :: ts

def printEntries : List (Value × Value) → Except Unprintable (List String)
  | [] => .ok []
  | (k, v) :: rest => do
    let s ← key k
    let t ← print v
    let ts ← printEntries rest
    return (s ++ ": " ++ t) :: ts

end

end RecordCheck.Json
