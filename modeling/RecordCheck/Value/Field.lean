import RecordCheck.Value.Attributes
import RecordCheck.Value.Equality

/-!
# Fields of records

A mapping has its entries for fields, and any other value its attributes. A field that is missing is
null.
-/
set_option autoImplicit false

namespace RecordCheck.Value

/-- Reads a field of a record; a missing field is null. A mapping is asked with any key that can be
a key, everything else with a name; other questions have no answer. -/
def field? (record name : Value) : Option Value :=
  match record, name with
  | .dict entries, _ =>
    if name.isHashable then some ((Keyed.find? name entries).getD .null) else none
  | record, .str s => some ((record.attribute? s).getD .null)
  | _, .brokenStr _ => some .null
  | _, _ => none

end RecordCheck.Value
