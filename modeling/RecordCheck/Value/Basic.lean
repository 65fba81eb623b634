import RecordCheck.Number.Binary64

/-!
# Values

The values that records, rule descriptions and reports are made of, and the tests of their shape.
A value is a scalar, a list-like collection of entries, a mapping in the order of its entries, or an
object with named attributes. A stream is a collection that can be gone through once; its serial
number tells it from other streams, and zero is that of a stream which has none yet.
-/
set_option autoImplicit false

namespace RecordCheck

/-- The kinds of collections that know their entries. -/
inductive Container where
  | list | tuple | set | frozenset
deriving DecidableEq, Repr

/-- Values of any shape. -/
inductive Value where
  | null
  | bool (b : Bool)
  | int (n : Int)
  | float (x : Binary64)
  | str (s : String)
  /-- Text, given by its code points, in which surrogates stand without a partner. -/
  | brokenStr (codes : List Nat)
  | bytes (data : List UInt8)
  | bytearray (data : List UInt8)
  | items (container : Container) (entries : List Value)
  | stream (serial : Nat) (entries : List Value)
  | object (attributes : List (String × Value))
  | dict (entries : List (Value × Value))
  /-- A value of a further kind, of which no more is known than how it is shown. -/
  | other (kindName text : String)
deriving Repr, Inhabited

/-- The kinds that values are told apart by. -/
inductive Kind where
  | null | bool | int | float | str | bytes | bytearray
  | items (container : Container)
  | stream | object | dict
  | other (name : String)
deriving DecidableEq, Repr

/-- The name of a kind in messages. -/
def Kind.name : Kind → String
  | .null => "NoneType"
  | .bool => "bool"
  | .int => "int"
  | .float => "float"
  | .str => "str"
  | .bytes => "bytes"
  | .bytearray => "bytearray"
  | .items .list => "list"
  | .items .tuple => "tuple"
  | .items .set => "set"
  | .items .frozenset => "frozenset"
  | .stream => "generator"
  | .object => "SimpleNamespace"
  | .dict => "dict"
  | .other name => name

namespace Value

@[match_pattern] abbrev list (entries : List Value) : Value := .items .list entries

@[match_pattern] abbrev tuple (entries : List Value) : Value := .items .tuple entries

def kind : Value → Kind
  | .null => .null
  | .bool _ => .bool
  | .int _ => .int
  | .float _ => .float
  | .str _ | .brokenStr _ => .str
  | .bytes _ => .bytes
  | .bytearray _ => .bytearray
  | .items container _ => .items container
  | .stream .. => .stream
  | .object _ => .object
  | .dict _ => .dict
  | .other name _ => .other name

/-- The number that a value stands for; truth values count as zero and one. -/
def number? : Value → Option Number
  | .bool b => some (.int (if b then 1 else 0))
  | .int n => some (.int n)
  | .float x => some (.float x)
  | _ => none

/-- A number as a value. -/
def ofNumber : Number → Value
  | .int n => .int n
  | .float x => .float x

/-- Text, numbers and truth values. -/
def isScalar : Value → Bool
  | .str _ | .brokenStr _ | .int _ | .float _ | .bool _ => true
  | _ => false

/-- Absent values: null and the empty text. -/
def isAbsent : Value → Bool
  | .null => true
  | .str s => s.isEmpty
  | _ => false

def isStr : Value → Bool
  | .str _ | .brokenStr _ => true
  | _ => false

def isMapping : Value → Bool
  | .dict _ => true
  | _ => false

/-- Mappings with a key that is text. Mappings without one are positional, like lists. -/
def isAssociative : Value → Bool
  | .dict entries => entries.any fun entry => entry.1.isStr
  | _ => false

/-- List-like collections of entries. -/
def isCollection : Value → Bool
  | .items .. | .stream .. => true
  | _ => false

/-- What can be checked as a record: mappings, objects, streams, which are objects without any of
the fields, and values of further kinds. -/
def isRecord : Value → Bool
  | .dict _ | .object _ | .stream .. | .other .. => true
  | _ => false

/-- The number of entries, for values that know it. -/
def size? : Value → Option Nat
  | .str s => some s.length
  | .brokenStr codes => some codes.length
  | .bytes data | .bytearray data => some data.length
  | .items _ entries => some entries.length
  | .dict entries => some entries.length
  | _ => none

/-- A code point as text. -/
def ofCode (code : Nat) : Value :=
  if code.isValidChar then .str (String.ofList [Char.ofNat code]) else .brokenStr [code]

/-- The members that a walk through a value meets: the characters of text, the numbers of bytes, the
entries of a collection, the keys of a mapping. A stream is taken as if it had just been made. -/
def members? : Value → Option (List Value)
  | .str s => some (s.toList.map fun c => .str (String.ofList [c]))
  | .brokenStr codes => some (codes.map ofCode)
  | .bytes data | .bytearray data => some (data.map fun b => .int b.toNat)
  | .items _ entries | .stream _ entries => some entries
  | .dict entries => some (entries.map (·.1))
  | _ => none

/-- Whether a value counts as true: not null, not zero and not empty. -/
def isTrue : Value → Bool
  | .null => false
  | .bool b => b
  | .int n => n != 0
  | .float (.finite _ units _) => units != 0
  | .float _ => true
  | v => match v.size? with
    | some n => n != 0
    | none => true

mutual

/-- Whether a value can be a key. -/
def isHashable : Value → Bool
  | .bytearray _ | .object _ | .dict _ | .items .list _ | .items .set _ => false
  | .items .tuple entries => areHashable entries
  | _ => true

def areHashable : List Value → Bool
  | [] => true
  | v :: vs => v.isHashable && areHashable vs

end

mutual

/-- Whether no stream occurs in a value. -/
def isSteady : Value → Bool
  | .stream .. => false
  | .items _ entries => areSteady entries
  | .object attributes => attributesSteady attributes
  | .dict entries => entriesSteady entries
  | _ => true

def areSteady : List Value → Bool
  | [] => true
  | v :: vs => v.isSteady && areSteady vs

def attributesSteady : List (String × Value) → Bool
  | [] => true
  | (_, v) :: rest => v.isSteady && attributesSteady rest

def entriesSteady : List (Value × Value) → Bool
  | [] => true
  | (k, v) :: rest => k.isSteady && v.isSteady && entriesSteady rest

end

end Value

end RecordCheck
