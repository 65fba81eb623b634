import RecordCheck.Number.Reading
import RecordCheck.Pattern.Node
import RecordCheck.Text.CharacterName
import RecordCheck.Text.Identifier
import RecordCheck.Text.Quoted

/-!
# Pattern text as trees

The text of a pattern is cut into tokens, a backslash and the character after it being one. The
parser takes tokens off the front; beside them it keeps the flags for the whole pattern and the
groups met so far. Of any three steps one takes a token off, so the number of tokens bounds the
recursion.

## Main definitions

* `Pattern.parse`: the parts of a text and the flags for the whole of it.
-/
set_option autoImplicit false

namespace RecordCheck.Pattern

/-- Why a text is no pattern. -/
inductive Misfit where
  | malformed
  | repeatTooLarge
  | flagsConflict
  | nestedTooDeep
deriving DecidableEq, Repr

/-- A character, or one after a backslash. -/
inductive Token where
  | plain (c : Char)
  | escaped (c : Char)
deriving DecidableEq, Repr

/-- Cuts a text into tokens; a backslash at its end is none. -/
def tokens? : List Char → Option (List Token)
  | [] => some []
  | '\\' :: c :: rest => (tokens? rest).map (.escaped c :: ·)
  | ['\\'] => none
  | c :: rest => (tokens? rest).map (.plain c :: ·)

/-- The characters of tokens. -/
def Token.chars : Token → List Char
  | .plain c => [c]
  | .escaped c => ['\\', c]

/-- What the parser keeps: the tokens left, the kind of text, the flags for the whole pattern, the
number of groups opened, the widths of those closed, the names of groups, how many groups there were
when a lookbehind began, the numbers that conditions ask for, whether anything is repeated, and how
deep the groups are nested. Two faults do not stop the reading: flags that choose characters in two
ways, and a lookbehind for something of no fixed width. -/
structure Reader where
  tokens : List Token
  isText : Bool
  flags : PatternFlags
  opened : Nat := 0
  closed : List (Nat × Width) := []
  names : List (List Char × Nat) := []
  behind : Option Nat := none
  wanted : List Nat := []
  conflict : Bool := false
  uneven : Bool := false
  repeats : Bool := false
  depth : Nat := 0
deriving Repr

/-- A step of the parser. -/
abbrev Parse := StateT Reader (Except Misfit)

namespace Parse

def fail {α : Type} : Parse α := throw .malformed

/-- The next token, which stays. -/
def peek : Parse (Option Token) := do return (← get).tokens.head?

/-- Takes a token off. -/
def next : Parse (Option Token) := do
  let r ← get
  match r.tokens with
  | [] => return none
  | t :: rest =>
    set { r with tokens := rest }
    return some t

/-- Takes a character off if it is the next token. -/
def accept (c : Char) : Parse Bool := do
  if (← peek) == some (.plain c) then
    let _ ← next
    return true
  else return false

/-- Takes a character off, or fails. -/
def expect (c : Char) : Parse Unit := do
  if !(← accept c) then fail

/-- Splits off characters that pass a test, at most `most` of them. -/
def splitWhile (test : Char → Bool) : Nat → List Token → List Char × List Token
  | most + 1, .plain c :: rest =>
    if test c then
      let (cs, left) := splitWhile test most rest
      (c :: cs, left)
    else ([], .plain c :: rest)
  | _, ts => ([], ts)

/-- Takes off characters that pass a test, at most `most` of them. -/
def takeWhile (most : Nat) (test : Char → Bool) : Parse (List Char) := do
  let r ← get
  let (cs, rest) := splitWhile test most r.tokens
  set { r with tokens := rest }
  return cs

/-- Splits tokens at a character. -/
def splitAt (terminator : Char) : List Token → Option (List Char × List Token)
  | [] => none
  | t :: rest =>
    if t == .plain terminator then some ([], rest)
    else (splitAt terminator rest).map fun (cs, left) => (t.chars ++ cs, left)

/-- Takes off what stands before a terminator, which must come and not come first. -/
def takeUntil (terminator : Char) : Parse (List Char) := do
  let r ← get
  match splitAt terminator r.tokens with
  | none | some ([], _) => fail
  | some (cs, rest) =>
    set { r with tokens := rest }
    return cs

/-- The greatest depth of nested sequences; alternatives count as one more. -/
def depthLimit : Nat := 982

/-- Reads what is nested deeper by some levels. -/
def nested {α : Type} (levels : Nat) (body : Parse α) : Parse α := do
  let outer := (← get).depth
  if depthLimit < outer + levels then throw .nestedTooDeep
  modify fun r => { r with depth := outer + levels }
  let result ← body
  modify fun r => { r with depth := outer }
  return result

end Parse

open Parse

def isHexDigit (c : Char) : Bool := c.isDigit || ('a' ≤ c && c ≤ 'f') || ('A' ≤ c && c ≤ 'F')

def isOctalDigit (c : Char) : Bool := '0' ≤ c && c ≤ '7'

/-- The number that digits stand for in a base up to sixteen. -/
def ofDigitsIn (base : Nat) (cs : List Char) : Nat :=
  cs.foldl (fun n c =>
    let d := if c.isDigit then c.toNat - 48 else (c.toNat ||| 0x20) - 87
    base * n + d) 0

/-! ## Groups -/

/-- Whether the lookbehind that is being read, if any, may refer to a group: it must have been
closed before the lookbehind began. -/
def checkBehind (number : Nat) : Parse Unit := do
  let r ← get
  match r.behind with
  | some count => if (r.closed.lookup number).isNone || count < number then fail
  | none => return

/-- Refers to a closed group. -/
def backrefTo (number : Nat) : Parse Node := do
  let r ← get
  if (r.closed.lookup number).isNone then fail
  checkBehind number
  return .backref number

/-- Opens a group, under a name that no other group has. -/
def openGroup (name : Option (List Char)) : Parse Nat := do
  let r ← get
  let number := r.opened + 1
  match name with
  | none => set { r with opened := number }
  | some cs =>
    if (r.names.lookup cs).isSome then fail
    set { r with opened := number, names := (cs, number) :: r.names }
  return number

def closeGroup (number : Nat) (body : List Node) : Parse Unit :=
  modify fun r => { r with closed := (number, widthOfAll r.closed body) :: r.closed }

/-- The name of a group up to a terminator. -/
def groupName (terminator : Char) : Parse (List Char) := do
  let cs ← takeUntil terminator
  if Text.isIdentifier cs then return cs else fail

/-- The group that a condition asks for, by name or by number. -/
def conditionGroup : Parse Nat := do
  let cs ← takeUntil ')'
  if Text.isIdentifier cs then
    match (← get).names.lookup cs with
    | some number => return number
    | none => fail
  else
    match readInteger? cs with
    | some (.ofNat (n + 1)) =>
      if n + 1 < 1073741823 then
        modify fun r => { r with wanted := (n + 1) :: r.wanted }
        return n + 1
      else fail
    | _ => fail

/-! ## Escapes -/

/-- A code point given by a number of hexadecimal digits. -/
def hexCode (count : Nat) : Parse Nat := do
  let cs ← takeWhile count isHexDigit
  let code := ofDigitsIn 16 cs
  if cs.length == count && code < 0x110000 then return code else fail

/-- A code point given by its name in braces. -/
def namedCode : Parse Nat := do
  expect '\x7b'
  let cs ← takeUntil '\x7d'
  match Text.characterNamed? (String.ofList cs) with
  | some code => return code
  | none => fail

/-- Letters with a meaning of their own for one character. -/
def controlEscape? : Char → Option Nat
  | 'a' => some 0x07
  | 'f' => some 0x0C
  | 'n' => some 0x0A
  | 'r' => some 0x0D
  | 't' => some 0x09
  | 'v' => some 0x0B
  | '\\' => some 0x5C
  | _ => none

/-- Letters for classes of characters. -/
def categoryEscape? : Char → Option SetItem
  | 'd' => some (.category .digit false)
  | 'D' => some (.category .digit true)
  | 's' => some (.category .blank false)
  | 'S' => some (.category .blank true)
  | 'w' => some (.category .word false)
  | 'W' => some (.category .word true)
  | _ => none

/-- A code point by number or by name, where the letter begins one. -/
def numericEscape (c : Char) : Parse (Option Nat) := do
  let isText := (← get).isText
  if c == 'x' then return some (← hexCode 2)
  else if c == 'u' && isText then return some (← hexCode 4)
  else if c == 'U' && isText then return some (← hexCode 8)
  else if c == 'N' && isText then return some (← namedCode)
  else return none

/-- A character that stands for itself after a backslash; letters and digits do not. -/
def plainEscape (c : Char) : Parse Nat :=
  if (c.isAlpha || c.isDigit) then fail else return c.toNat

/-- A code point given by octal digits, the first of which is known. -/
def octalCode (first : Char) : Parse Nat := do
  let cs ← takeWhile 2 isOctalDigit
  let code := ofDigitsIn 8 (first :: cs)
  if code ≤ 0xFF then return code else fail

/-- An escape inside a set. -/
def setEscape (c : Char) : Parse SetItem := do
  if c == 'b' then return .single 0x08
  match controlEscape? c, categoryEscape? c with
  | some code, _ => return .single code
  | none, some item => return item
  | none, none =>
    match ← numericEscape c with
    | some code => return .single code
    | none =>
      if isOctalDigit c then return .single (← octalCode c)
      else return .single (← plainEscape c)

/-- Letters for places in the text. -/
def anchorEscape? : Char → Option Anchor
  | 'A' => some .textStart
  | 'Z' => some .textEnd
  | 'b' => some .wordBoundary
  | 'B' => some .noWordBoundary
  | _ => none

/-- An escape by digits that does not start with zero: three octal digits are a character, and one
or two digits refer to a group. -/
def digitEscape (c : Char) : Parse Node := do
  let more ← takeWhile 1 Char.isDigit
  match more with
  | [d] =>
    let third ← if isOctalDigit c && isOctalDigit d then takeWhile 1 isOctalDigit else pure []
    match third with
    | [e] =>
      let code := ofDigitsIn 8 [c, d, e]
      if code ≤ 0xFF then return .char false code else fail
    | _ => backrefTo (ofDigitsIn 10 [c, d])
  | _ => backrefTo (ofDigitsIn 10 [c])

/-- An escape outside of sets. -/
def escape (c : Char) : Parse Node := do
  match anchorEscape? c, categoryEscape? c, controlEscape? c with
  | some place, _, _ => return .anchor place
  | none, some item, _ => return .set false [item]
  | none, none, some code => return .char false code
  | none, none, none =>
    match ← numericEscape c with
    | some code => return .char false code
    | none =>
      if c == '0' then
        let cs ← takeWhile 2 isOctalDigit
        return .char false (ofDigitsIn 8 cs)
      else if c.isDigit then digitEscape c
      else return .char false (← plainEscape c)

/-! ## Sets -/

/-- A member of a set, from its first token. -/
def setMember : Token → Parse SetItem
  | .plain c => return .single c.toNat
  | .escaped c => setEscape c

/-- The range between two members, which must be single characters in order. -/
def rangeOf : SetItem → SetItem → Parse SetItem
  | .single first, .single last => if first ≤ last then return .range first last else fail
  | _, _ => fail

/-- The members of a set up to its closing bracket, which counts as a member where it comes first.
-/
def setMembers : Nat → List SetItem → Parse (List SetItem)
  | 0, _ => fail
  | fuel + 1, found => do
    match ← next with
    | none => fail
    | some t =>
      if t == .plain ']' && !found.isEmpty then return found.reverse
      else
        let item ← setMember t
        if ← accept '-' then
          match ← next with
          | none => fail
          | some (.plain ']') => return (.single 0x2D :: item :: found).reverse
          | some u => setMembers fuel ((← rangeOf item (← setMember u)) :: found)
        else setMembers fuel (item :: found)

/-- A set after its opening bracket. One with a single character is that character. -/
def setNode : Parse Node := do
  let negated ← accept '^'
  let items ← setMembers ((← get).tokens.length + 1) []
  match items.eraseDups with
  | [.single code] => return .char negated code
  | items => return .set negated items

/-! ## Repetition -/

/-- The greatest number of rounds that can be given. -/
def roundLimit : Nat := 4294967295

/-- A number of rounds. -/
def roundCount (cs : List Char) : Parse Nat :=
  if integerDigitLimit < cs.length then throw .flagsConflict
  else if roundLimit ≤ ofDigitsIn 10 cs then throw .repeatTooLarge
  else return ofDigitsIn 10 cs

/-- The bounds in braces after the opening one; without the form of bounds the brace is a plain
character and nothing is taken off. -/
def bounds? : Parse (Option (Nat × Option Nat)) := do
  if (← peek) == some (.plain '\x7d') then return none
  let before ← get
  let low ← takeWhile before.tokens.length Char.isDigit
  let high ← if ← accept ',' then takeWhile before.tokens.length Char.isDigit else pure low
  if ← accept '\x7d' then
    let least ← if low.isEmpty then pure 0 else roundCount low
    if high.isEmpty then return some (least, none)
    let most ← roundCount high
    if most < least then fail
    return some (least, some most)
  else
    set before
    return none

/-- The bounds that a character asks for, if it is one that repeats what stands before it. -/
def repetition? (c : Char) : Parse (Option (Nat × Option Nat)) := do
  if c == '?' then return some (0, some 1)
  else if c == '*' then return some (0, none)
  else if c == '+' then return some (1, none)
  else if c == '\x7b' then bounds?
  else return none

/-- The character after the bounds that tells how to choose the number of rounds. -/
def greed : Parse Greed := do
  if ← accept '?' then return .reluctant
  else if ← accept '+' then return .possessive
  else return .greedy

/-- Repeats the last part, latest part first. Places and repetitions cannot be repeated. -/
def repeatLast (least : Nat) (most : Option Nat) : List Node → Parse (List Node)
  | [] | .anchor _ :: _ | .repeat .. :: _ => fail
  | node :: rest => do
    modify fun r => { r with repeats := true }
    return .repeat least most (← greed) (node.plainBody?.getD [node]) :: rest

/-! ## Flags in groups -/

/-- The flags of a letter inside a pattern. -/
def inlineFlag? (isText : Bool) : Char → Option PatternFlags
  | 'i' => some { ignoreCase := true }
  | 'm' => some { multiline := true }
  | 's' => some { dotAll := true }
  | 'x' => some { verbose := true }
  | 't' => some { template := true }
  | 'a' => some { characters := some .ascii }
  | 'u' => if isText then some { characters := some .unicode } else none
  | 'L' => if isText then none else some { characters := some .locale }
  | _ => none

/-- Adds the flags of a letter; characters cannot be chosen in two ways. -/
def addFlag (c : Char) (flags : PatternFlags) : Parse PatternFlags := do
  match inlineFlag? (← get).isText c with
  | none => fail
  | some new =>
    match flags.characters, new.characters with
    | some a, some b => if a != b then fail
    | _, _ => pure ()
    return flags.union new

/-- Letters of flags up to a character that ends them. -/
def flagLetters (ends : List Char) : Nat → PatternFlags → Parse (PatternFlags × Char)
  | 0, _ => fail
  | fuel + 1, flags => do
    match ← next with
    | some (.plain c) =>
      if ends.contains c then return (flags, c)
      else flagLetters ends fuel (← addFlag c flags)
    | _ => fail

/-- Flags at the start of a group: those turned on and off, or none of both when they are for the
whole pattern. Only a whole pattern can be a template. -/
def groupFlags (first : Char) : Parse (Option (PatternFlags × PatternFlags)) := do
  let fuel := (← get).tokens.length + 1
  let (on, stop) ←
    if first == '-' then pure (({} : PatternFlags), '-')
    else flagLetters [')', '-', ':'] fuel (← addFlag first {})
  if stop == ')' then
    let clash (r : Reader) : Bool :=
      match r.flags.characters, on.characters with
      | some a, some b => a != b
      | _, _ => false
    modify fun r => { r with flags := r.flags.union on, conflict := r.conflict || clash r }
    return none
  if on.template then fail
  if stop == ':' then return some (on, {})
  match ← next with
  | some (.plain c) =>
    let (off, _) ← flagLetters [':'] fuel (← addFlag c {})
    if off.characters.isSome || off.template || on.meet off then fail
    return some (on, off)
  | _ => fail

/-! ## Groups and sequences -/

/-- What the opening of a group says: a comment, flags for the whole pattern, a reference, a
condition, a look at what comes or came, or a body with its kind. -/
inductive Opening where
  | skipped
  | whole (node : Node)
  | condition (number : Nat)
  | look (behind negated : Bool)
  | body (name : Option (List Char)) (captures isAtomic : Bool) (on off : PatternFlags)

/-- The opening of a group after its parenthesis. `first` tells whether nothing stands before it. -/
def opening (first : Bool) : Parse Opening := do
  if !(← accept '?') then return .body none true false {} {}
  match ← next with
  | some (.plain 'P') =>
    if ← accept '<' then return .body (some (← groupName '>')) true false {} {}
    expect '='
    match (← get).names.lookup (← groupName ')') with
    | some number => return .whole (← backrefTo number)
    | none => fail
  | some (.plain ':') => return .body none false false {} {}
  | some (.plain '>') => return .body none false true {} {}
  | some (.plain '#') =>
    let r ← get
    match splitAt ')' r.tokens with
    | none => fail
    | some (_, rest) =>
      set { r with tokens := rest }
      return .skipped
  | some (.plain '=') => return .look false false
  | some (.plain '!') => return .look false true
  | some (.plain '<') =>
    if ← accept '=' then return .look true false
    expect '!'
    return .look true true
  | some (.plain '(') =>
    let number ← conditionGroup
    checkBehind number
    return .condition number
  | some (.plain c) =>
    if c != '-' && (inlineFlag? (← get).isText c).isNone then fail
    match ← groupFlags c with
    | none => if first then return .skipped else fail
    | some (on, off) => return .body none false false on off
  | _ => fail

/-- A look at the text before or after a place. What is looked for before it must have a fixed
width. -/
def lookNode (behind negated : Bool) (body : List Node) : Parse Node := do
  if behind then
    match (widthOfAll (← get).closed body).fixed? with
    | some width => return .look true negated width body
    | none =>
      modify fun r => { r with uneven := true }
      return .look true negated 0 body
  else return .look false negated 0 body

/-- Drops a comment up to the end of its line. -/
def skipComment : List Token → List Token
  | [] => []
  | t :: rest => if t == .plain '\n' then rest else skipComment rest

/-- Whether blanks and comments between parts are skipped, after flags for the whole pattern. -/
def verboseNow (verbose : Bool) : Parse Bool := do return verbose || (← get).flags.verbose

mutual

/-- Sequences between bars, after those that are done, the last one first. `top` tells whether they
are the whole pattern. -/
def alternatives : Nat → Bool → Bool → List (List Node) → Parse (List Node)
  | 0, _, _, _ => fail
  | fuel + 1, verbose, top, done => do
    let way ← parts fuel verbose (top && done.isEmpty) []
    if ← accept '|' then
      let verbose ← if top then (do return (← get).flags.verbose) else pure verbose
      alternatives fuel verbose top (way :: done)
    else return Node.ofWays (way :: done).reverse

/-- Parts up to a bar, a closing parenthesis or the end, given the parts before them, latest first.
-/
def parts : Nat → Bool → Bool → List Node → Parse (List Node)
  | 0, _, _, _ => fail
  | fuel + 1, verbose, first, done => do
    match ← peek with
    | none | some (.plain '|') | some (.plain ')') => return Node.flattened done.reverse
    | some (.escaped c) =>
      let _ ← next
      parts fuel verbose first ((← escape c) :: done)
    | some (.plain c) =>
      let _ ← next
      if verbose && [' ', '\t', '\n', '\r', '\x0b', '\x0c'].contains c then
        parts fuel verbose first done
      else if verbose && c == '#' then
        modify fun r => { r with tokens := skipComment r.tokens }
        parts fuel verbose first done
      else if c == '[' then parts fuel verbose first ((← setNode) :: done)
      else if c == '.' then parts fuel verbose first (.any :: done)
      else if c == '^' then parts fuel verbose first (.anchor .lineStart :: done)
      else if c == '$' then parts fuel verbose first (.anchor .lineEnd :: done)
      else if c == '(' then
        match ← groupNode fuel verbose (first && done.isEmpty) with
        | some node => parts fuel verbose first (node :: done)
        | none =>
          let verbose ← if first && done.isEmpty then verboseNow verbose else pure verbose
          parts fuel verbose first done
      else
        match ← repetition? c with
        | some (least, most) => parts fuel verbose first (← repeatLast least most done)
        | none => parts fuel verbose first (.char false c.toNat :: done)

/-- A group after its opening parenthesis; comments and flags for the whole pattern leave nothing.
-/
def groupNode : Nat → Bool → Bool → Parse (Option Node)
  | 0, _, _ => fail
  | fuel + 1, verbose, first => do
    match ← opening first with
    | .skipped => return none
    | .whole node => return some node
    | .condition number =>
      let yes ← nested 1 (parts fuel verbose false [])
      let no ← if ← accept '|' then nested 1 (parts fuel verbose false []) else pure []
      expect ')'
      return some (.cond number yes no)
    | .look behind negated =>
      let outer := (← get).behind
      if behind && outer.isNone then modify fun r => { r with behind := some r.opened }
      let body ← nested 2 (alternatives fuel verbose false [])
      if behind then modify fun r => { r with behind := outer }
      expect ')'
      return some (← lookNode behind negated body)
    | .body name captures isAtomic on off =>
      let number ← if captures then (do return some (← openGroup name)) else pure none
      let verbose := (verbose || on.verbose) && !off.verbose
      let body ← nested 2 (alternatives fuel verbose false [])
      expect ')'
      if isAtomic then return some (.atomic body)
      if let some n := number then closeGroup n body
      return some (.group number on off body)

end

/-- What a text says: the parts of the pattern, the flags for the whole of it, and the widths of its
groups. -/
structure Reading where
  parts : List Node
  flags : PatternFlags
  widths : List (Nat × Width)
deriving Repr

/-- Reads the text of a pattern. -/
def parse (isText : Bool) (flags : PatternFlags) (text : List Char) : Except Misfit Reading :=
  match tokens? text with
  | none => .error .malformed
  | some ts => do
    let start : Reader := { tokens := ts, isText, flags }
    let (all, r) ← (alternatives (3 * ts.length + 3) flags.verbose true []).run start
    if r.conflict then throw .flagsConflict
    if !r.tokens.isEmpty || r.uneven || (r.flags.template && r.repeats) ||
        r.wanted.any fun number => r.opened < number then
      throw .malformed
    return ⟨all, r.flags, r.closed⟩

end RecordCheck.Pattern
