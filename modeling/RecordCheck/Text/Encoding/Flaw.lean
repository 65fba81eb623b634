/-!
# Flaws of encoded text

Why bytes have no text in an encoding.
-/
set_option autoImplicit false

namespace RecordCheck.Text.Encoding

/-- Why bytes have no text in an encoding. -/
inductive Flaw where
  /-- The bytes are malformed. -/
  | malformed
  /-- The text as a whole is not in the form that the encoding asks for. -/
  | unsuitable
  /-- The bytes ask for a character set that cannot be used in this way. -/
  | unsupported
deriving DecidableEq, Repr

/-- A count, where its lack means that the bytes are malformed. -/
def Flaw.orMalformed : Option Nat → Except Flaw Nat
  | some n => .ok n
  | none => .error .malformed

end RecordCheck.Text.Encoding
