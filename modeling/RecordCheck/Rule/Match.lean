import RecordCheck.Code
import RecordCheck.Ledger
import RecordCheck.Pattern.Formats

/-!
# Rules that look for a pattern

A scalar passes when the pattern is found in its text.
-/
set_option autoImplicit false

namespace RecordCheck

/-- A pattern with the code to report where it is not found. -/
structure Match where
  pattern : Pattern
  error : Value
deriving Repr

namespace Match

/-- A rule with a code of its own. Codes that are blank or count as false are replaced; a code must
be text or bytes otherwise. -/
def ofPattern (pattern : Pattern) (error : Value) : Except Error Match :=
  let blank : Except Error Bool := match error with
    | .str s => .ok (Text.isAllBlank s)
    | .brokenStr _ => .ok false
    | .bytes data | .bytearray data =>
      .ok (data.all fun b => b.toNat < 0x80 && Text.isNumberBlank b.toNat)
    | v => if v.isTrue then .error (.ofMissingMethod v "strip") else .ok true
  blank.map fun b => ⟨pattern, if b then .str Code.wrongFormat else error⟩

/-- The rule for a pattern with flags. -/
def like (pattern flags : Value) : Act Match := do
  let flags ← match flags with
    | .stream serial _ => Value.stream serial <$> flags.walk
    | flags => pure flags
  let p ← Pattern.ofValue pattern (← PatternFlags.ofValue flags)
  return ⟨p, .str Code.wrongFormat⟩

def email : Match := ⟨.email, .str Code.wrongEmail⟩

def date : Match := ⟨.date, .str Code.wrongDate⟩

def url : Match := ⟨.url, .str Code.wrongUrl⟩

/-- The code that is reported for a value, if any. -/
def apply (m : Match) (v : Value) : Except Error (Option Value) :=
  if v.isScalar then do
    let text ← Error.textOf v
    return if ← m.pattern.found text.toList then none else some m.error
  else .ok (some (.str Code.formatError))

end Match

end RecordCheck
