import RecordCheck.Value.Basic

/-!
# Reports

What rules report about a value: a code, a list with a slot for each entry of a list, or a mapping
from the fields of a record to what is reported about them.

## Main definitions

* `Report`, and `Report.toValue`: the report as lists and mappings.
* `Report.collapse`: a lone report is taken out of its list.
-/
set_option autoImplicit false

namespace RecordCheck

/-- Reports. A slot without a report belongs to an entry that passes. -/
inductive Report where
  | code (v : Value)
  | slots (entries : List (Option Report))
  | fields (entries : List (Value × Report))
deriving Repr

namespace Report

/-- The report of a rule with a single code. -/
def ofCode (v : Value) : Report := .slots [some (.code v)]

mutual

/-- A report as a value. -/
def toValue : Report → Value
  | .code v => v
  | .slots entries => .list (slotValues entries)
  | .fields entries => .dict (fieldValues entries)

def slotValues : List (Option Report) → List Value
  | [] => []
  | none :: rest => .null :: slotValues rest
  | some r :: rest => r.toValue :: slotValues rest

def fieldValues : List (Value × Report) → List (Value × Value)
  | [] => []
  | (field, r) :: rest => (field, r.toValue) :: fieldValues rest

end

/-- Whether a report is a mapping. -/
def isMapping : Report → Bool
  | .code v => v.isMapping
  | .slots _ => false
  | .fields _ => true

/-- A report that is alone in its list is taken out, unless it is a mapping. -/
def collapse : Report → Report
  | .slots [some r] => if r.isMapping then .slots [some r] else r
  | r => r

/-- The slots of a list rule; nothing is reported when every entry passes. -/
def ofSlots (entries : List (Option Report)) : Option Report :=
  if entries.any Option.isSome then some (.slots entries) else none

/-- What is reported about the fields of a record; nothing when every field passes. -/
def ofFields (entries : List (Value × Report)) : Option Report :=
  if entries.isEmpty then none else some (.fields entries)

end Report

end RecordCheck
