import RecordCheck.Error

/-!
# Pattern flags

The switches that change how a pattern is read and matched, and the letters that callers give them
by.
-/
set_option autoImplicit false

namespace RecordCheck

/-- Whether character classes and case follow ASCII or all scripts, or the place where the program
runs (which only patterns over bytes may ask for). -/
inductive CharacterSet where
  | unicode | ascii | locale
deriving DecidableEq, Repr

/-- Switches of a pattern; `characters` is open until it is chosen. A template must not repeat
anything. -/
structure PatternFlags where
  ignoreCase : Bool := false
  multiline : Bool := false
  dotAll : Bool := false
  verbose : Bool := false
  characters : Option CharacterSet := none
  template : Bool := false
deriving DecidableEq, Repr

namespace PatternFlags

/-- The flags that are on in one of two sets; the second one chooses the characters first. -/
def union (a b : PatternFlags) : PatternFlags :=
  ⟨a.ignoreCase || b.ignoreCase, a.multiline || b.multiline, a.dotAll || b.dotAll,
    a.verbose || b.verbose, b.characters.or a.characters, a.template || b.template⟩

/-- The flags of the first set that are not in the second. -/
def without (a b : PatternFlags) : PatternFlags :=
  ⟨a.ignoreCase && !b.ignoreCase, a.multiline && !b.multiline, a.dotAll && !b.dotAll,
    a.verbose && !b.verbose, a.characters, a.template⟩

/-- Whether some switch is on in both sets. -/
def meet (a b : PatternFlags) : Bool :=
  a.ignoreCase && b.ignoreCase || a.multiline && b.multiline || a.dotAll && b.dotAll ||
    a.verbose && b.verbose

/-- The flag that a letter stands for; patterns over text always know all scripts, so the last
letter changes nothing. -/
def ofLetter? : String → Option PatternFlags
  | "i" => some { ignoreCase := true }
  | "m" => some { multiline := true }
  | "s" => some { dotAll := true }
  | "x" => some { verbose := true }
  | "u" => some {}
  | _ => none

/-- Flags as a number, one binary digit to a flag. -/
def bits (flags : PatternFlags) : Nat :=
  (if flags.ignoreCase then 2 else 0) + (if flags.multiline then 8 else 0) +
    (if flags.dotAll then 16 else 0) + (if flags.verbose then 64 else 0)

/-- Texts in the order of their code points, each once. -/
def sortedOnce (letters : List String) : List String :=
  (letters.mergeSort fun a b => decide (a ≤ b)).eraseReps

/-- The flags of a sequence of letters, or the error that names those that are none. -/
def ofLetters (letters : List String) : Except Error PatternFlags :=
  match letters.filter fun letter => (ofLetter? letter).isNone with
  | [] => .ok ((letters.filterMap ofLetter?).foldl union {})
  | unknown => .error (.unsupportedFlags (String.join (sortedOnce unknown)))

/-- The texts among values, if they are all texts. -/
def texts? : List Value → Option (List String)
  | [] => some []
  | .str s :: vs => (texts? vs).map (s :: ·)
  | _ :: _ => none

/-- The flags that a value asks for. A stream is spent by the check of its letters and sets none. -/
def ofValue (v : Value) : Except Error PatternFlags := do
  match v.members?.bind texts? with
  | none => .error .wrongType
  | some names =>
    let flags ← ofLetters names
    return match v with
      | .stream .. => {}
      | _ => flags

end PatternFlags

end RecordCheck
