import RecordCheck.Pattern.Character

/-!
# Patterns as programs

A program is what a pattern comes down to for matching: every part knows what follows it, its flags
are worked out, and a repeated part of one character is told apart from other repetitions. Beside
the code there is what a search knows in advance about the places where a match can start.

## Main definitions

* `Code`, `codeOf`: the code of a sequence under given flags.
* `Program`, `Program.ofParts`: the program of a pattern.
-/
set_option autoImplicit false

namespace RecordCheck.Pattern

/-- Code. What a part is followed by comes last in it. -/
inductive Code where
  /-- The end: goes on with what follows outside. -/
  | done
  /-- The first piece, followed by the second. -/
  | seq (first second : Code)
  | single (test : Single) (next : Code)
  | anchor (place : Anchor) (multiline scripts : Bool) (next : Code)
  /-- Remembers the place in a slot. -/
  | mark (slot : Nat) (next : Code)
  /-- One way, or else the others. -/
  | way (first others : Code)
  /-- The end of ways: none is left. -/
  | noWay
  /-- Repeats a test. -/
  | run (greed : Greed) (least : Nat) (most : Option Nat) (test : Single) (next : Code)
  /-- Repeats a body. -/
  | loop (greed : Greed) (least : Nat) (most : Option Nat) (body next : Code)
  /-- Looks at the text that begins a number of characters before the place. -/
  | look (negated : Bool) (back : Nat) (body next : Code)
  | atomic (body next : Code)
  | backref (folding : Folding) (group : Nat) (next : Code)
  | cond (group : Nat) (yes no : Code)
deriving Repr

mutual

/-- The code of a part that is followed by other code. -/
def Node.code (flags : PatternFlags) : Node → Code → Code
  | .char negated code, next => .single (.ofChar flags negated code) next
  | .any, next => .single (.any flags.dotAll) next
  | .set negated items, next => .single (.ofSet flags negated items) next
  | .anchor place, next => .anchor place flags.multiline (allScripts flags) next
  | .group none on off body, next => codeOf ((flags.union on).without off) body next
  | .group (some number) on off body, next =>
    .mark (2 * number - 2)
      (codeOf ((flags.union on).without off) body (.mark (2 * number - 1) next))
  | .choice ways, next => .seq (codeOfWays flags ways) next
  | .repeat least most greed body, next =>
    match onlySingle? flags body with
    | some test => .run greed least most test next
    | none => .loop greed least most (codeOf flags body .done) next
  | .look _ negated width body, next => .look negated width (codeOf flags body .done) next
  | .atomic body, next => .atomic (codeOf flags body .done) next
  | .backref number, next => .backref (foldingOf flags) number next
  | .cond number yes [], next => .cond number (codeOf flags yes next) next
  | .cond number yes no, next =>
    .cond number (.seq (codeOf flags yes .done) next) (codeOf flags no next)

/-- The code of a sequence that is followed by other code. -/
def codeOf (flags : PatternFlags) : List Node → Code → Code
  | [], next => next
  | node :: rest, next => node.code flags (codeOf flags rest next)

/-- The code of alternatives. -/
def codeOfWays (flags : PatternFlags) : List (List Node) → Code
  | [] => .noWay
  | way :: rest => .way (codeOf flags way .done) (codeOfWays flags rest)

end

/-! ## Where a match can start -/

/-- What a search knows about the places where a match can start: that there must be room for the
least match, that nothing holds it back, or that the next character passes a test. -/
inductive Start where
  | withRoom
  | anywhere
  | before (test : Single)
deriving DecidableEq, Repr

mutual

/-- Whether a sequence starts with a character that is not told apart by case, and whether it has
nothing else than such characters. -/
def literalStart (flags : PatternFlags) : List Node → Bool × Bool
  | [] => (false, true)
  | node :: rest =>
    let (found, whole) := node.literalPart flags
    if whole then
      let (foundLater, wholeRest) := literalStart flags rest
      (found || foundLater, wholeRest)
    else (found, false)

/-- What `literalStart` tells about one part. -/
def Node.literalPart (flags : PatternFlags) : Node → Bool × Bool
  | .char false code => let plain := !(foldingOf flags).anyCased code code; (plain, plain)
  | .group _ on off body => literalStart ((flags.union on).without off) body
  | _ => (false, false)

end

/-- The members of a set that are not told apart by case and lie in the basic plane where case is
ignored. -/
def plainMembers? (flags : PatternFlags) (items : List SetItem) : Option (List SetItem) :=
  let folding := foldingOf flags
  let isCased : SetItem → Bool
    | .single code => folding.anyCased code code
    | .range first last => folding != .none && planeSize ≤ last || folding.anyCased first last
    | .category .. => false
  if items.any isCased then none else some items

/-- The character that a way starts with, if it is not told apart by case. -/
def firstPlain? (flags : PatternFlags) : List Node → Option SetItem
  | .char false code :: _ =>
    if (foldingOf flags).anyCased code code then none else some (.single code)
  | _ => none

mutual

/-- The characters that a sequence starts with, if they are known: whether they are all but the
given ones, and those. -/
def firstSet? (flags : PatternFlags) : List Node → Option (Bool × List SetItem)
  | [] => none
  | node :: _ => node.firstSetOf? flags

/-- What `firstSet?` tells about one part. -/
def Node.firstSetOf? (flags : PatternFlags) : Node → Option (Bool × List SetItem)
  | .char false code =>
    if (foldingOf flags).anyCased code code then none else some (false, [.single code])
  | .set negated items => (plainMembers? flags items).map fun plain => (negated, plain)
  | .choice ways => (ways.mapM (firstPlain? flags)).map fun items => (false, items)
  | .group _ on off body => firstSet? ((flags.union on).without off) body
  | _ => none

end

/-- Where matches of a sequence can start. Classes of characters follow the flags for the whole
pattern here, whatever flags hold inside. -/
def startOf (flags : PatternFlags) (least : Nat) (parts : List Node) : Start :=
  if least == 0 then .withRoom
  else if (literalStart flags parts).1 then .anywhere
  else match firstSet? flags parts with
    | some (negated, items) => .before (.set negated .none (allScripts flags) items)
    | none => .withRoom

/-! ## Programs -/

/-- The program of a pattern: the least number of characters that a match can have, where a match
can start, and the code. -/
structure Program where
  least : Nat
  start : Start
  code : Code
deriving Repr

/-- The program of a sequence with given widths of its groups. -/
def Program.ofParts (flags : PatternFlags) (groups : List (Nat × Width)) (parts : List Node) :
    Program :=
  let least := min (widthOfAll groups parts).least Width.greatestBack
  ⟨least, startOf flags least parts, codeOf flags parts .done⟩

end RecordCheck.Pattern
