import RecordCheck.Error
import RecordCheck.Value.Field

/-!
# Streams that run out

A stream can be gone through once, whoever asks for its entries: a rule with a stream for an operand
finds in it what earlier values have left. A ledger tells how many entries have been taken from
which stream, and which serial number comes next. What makes or applies rules is an action on the
ledger. An action that fails keeps what it has taken.

## Main definitions

* `Ledger`, and `Act`: actions on it.
* `Value.walk`: goes through a value, and takes everything that a stream has left.
* `Value.renewed`: a value with serial numbers of its own.
-/
set_option autoImplicit false

namespace RecordCheck

/-- The serial number that comes next, and the number of entries that have been taken from the
streams with given serial numbers. -/
structure Ledger where
  next : Nat := 1
  taken : List (Nat × Nat) := []
deriving DecidableEq, Repr

namespace Ledger

/-- How many entries have been taken from a stream. -/
def takenFrom (ledger : Ledger) (serial : Nat) : Nat := (ledger.taken.lookup serial).getD 0

/-- Takes more entries from a stream. -/
def take (ledger : Ledger) (serial count : Nat) : Ledger :=
  { ledger with taken := (serial, ledger.takenFrom serial + count) :: ledger.taken }

end Ledger

/-- Actions on the ledger that may fail. -/
abbrev Act := ExceptT Error (StateM Ledger)

namespace Value

/-- The entries that a stream has left. -/
def left (serial : Nat) (entries : List Value) : Act (List Value) := do
  return entries.drop ((← get).takenFrom serial)

/-- Goes through a value: its members, or everything that a stream has left. -/
def walk : Value → Act (List Value)
  | .stream serial entries => do
    let rest ← left serial entries
    modify fun ledger => ledger.take serial rest.length
    return rest
  | v => match v.members? with
    | some members => return members
    | none => throw .wrongType

/-! ## Serial numbers -/

/-- The next serial number is handed out. -/
def freshSerial : StateM Ledger Nat := do
  let ledger ← get
  set { ledger with next := ledger.next + 1 }
  return ledger.next

mutual

/-- A value whose streams and NaNs have serial numbers of their own. -/
def renewed : Value → StateM Ledger Value
  | .float (.nan _) => do return .float (.nan (← freshSerial))
  | .stream _ entries => do
    let serial ← freshSerial
    return .stream serial (← renewedAll entries)
  | .items container entries => do return .items container (← renewedAll entries)
  | .object attributes => do return .object (← renewedAttributes attributes)
  | .dict entries => do return .dict (← renewedEntries entries)
  | v => return v

def renewedAll : List Value → StateM Ledger (List Value)
  | [] => return []
  | v :: vs => do
    let w ← v.renewed
    return w :: (← renewedAll vs)

def renewedAttributes : List (String × Value) → StateM Ledger (List (String × Value))
  | [] => return []
  | (name, v) :: rest => do
    let w ← v.renewed
    return (name, w) :: (← renewedAttributes rest)

def renewedEntries : List (Value × Value) → StateM Ledger (List (Value × Value))
  | [] => return []
  | (k, v) :: rest => do
    let key ← k.renewed
    let w ← v.renewed
    return (key, w) :: (← renewedEntries rest)

end

end Value

end RecordCheck
