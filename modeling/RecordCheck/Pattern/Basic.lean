import RecordCheck.Pattern.Matcher
import RecordCheck.Pattern.Parser
import RecordCheck.Text.Quoted

/-!
# Patterns

A pattern is the text that it was written as, the flags for the whole of it, and its program.
Patterns over bytes can be written too, but they find nothing in text.
-/
set_option autoImplicit false

namespace RecordCheck

/-- A pattern over text or over bytes, each of which then counts as a character of its code. -/
structure Pattern where
  isText : Bool
  source : List Char
  flags : PatternFlags
  program : Pattern.Program
deriving Repr

namespace Pattern

/-- The error of what is no pattern. -/
def Misfit.toError : Misfit → Error
  | .malformed => .fault .badPattern
  | .repeatTooLarge => .fault .tooLarge
  | .flagsConflict => .badValue
  | .nestedTooDeep => .endless

/-- The pattern written as the given characters. -/
def ofSource (isText : Bool) (source : List Char) (flags : PatternFlags) : Except Error Pattern :=
  match parse isText flags source with
  | .ok reading =>
    .ok ⟨isText, source, reading.flags, .ofParts reading.flags reading.widths reading.parts⟩
  | .error misfit => .error misfit.toError

/-- The pattern that a value is the text of. -/
def ofValue (v : Value) (flags : PatternFlags) : Except Error Pattern :=
  match v with
  | .str s => ofSource true s.toList flags
  | .bytes data => ofSource false (data.map fun b => Char.ofNat b.toNat) flags
  | _ => .error .wrongType

/-- Whether a pattern is found in text. A match that remembers a group from a later place to an
earlier one is a fault. -/
def found (p : Pattern) (text : List Char) : Except Error Bool :=
  if !p.isText then .error .wrongType
  else match p.program.search text with
    | none => .ok false
    | some memory => if Memory.isTangled memory.slots then .error (.fault .internal) else .ok true

/-- The words for the flags of a pattern. -/
def flagWords (p : Pattern) : List String :=
  let words : List (Bool × String) :=
    [(p.flags.template, "re.TEMPLATE"), (p.flags.ignoreCase, "re.IGNORECASE"),
     (p.flags.characters == some .locale, "re.LOCALE"), (p.flags.multiline, "re.MULTILINE"),
     (p.flags.dotAll, "re.DOTALL"), (p.flags.verbose, "re.VERBOSE"),
     (p.flags.characters == some .ascii, "re.ASCII")]
  (words.filter (·.1)).map (·.2)

/-- A pattern as text. The quoted source is cut to two hundred characters. -/
def text (p : Pattern) : String :=
  let quoted := if p.isText then Text.quoted (String.ofList p.source)
    else Text.quotedBytes (p.source.map fun c => c.toNat.toUInt8)
  let words := p.flagWords
  "re.compile(" ++ String.ofList (quoted.toList.take 200) ++
    (if words.isEmpty then "" else ", " ++ "|".intercalate words) ++ ")"

/-- Patterns are the same when they were written the same way and have the same flags. -/
def same (p q : Pattern) : Bool :=
  p.isText == q.isText && p.source == q.source && p.flags == q.flags

end Pattern

end RecordCheck
