import RecordCheck.Pattern.Node
import RecordCheck.Text.Blank
import RecordCheck.Text.Case
import RecordCheck.Text.Digit
import RecordCheck.Text.Word

/-!
# Tests of single characters

What a part of a pattern that matches one character asks of it under given flags. Where case is
ignored, the character is folded to lower case before it is looked at, and members of sets stand for
the folded characters of their spellings.

## Main definitions

* `Single`: a test of one character.
* `Node.single?`: the test that a part stands for.
-/
set_option autoImplicit false

namespace RecordCheck.Pattern

/-- How a character is folded before it is compared. -/
inductive Folding where
  | none | ascii | full
deriving DecidableEq, Repr

namespace Folding

def apply : Folding → Nat → Nat
  | none, code => code
  | ascii, code => Text.asciiLower code
  | full, code => Text.lower code

/-- The spellings of a folded character. -/
def spellings : Folding → Nat → List Nat
  | none, code => [code]
  | ascii, code => Text.asciiCaseVariants code
  | full, code => Text.caseVariants code

/-- Whether some code point between two has another spelling. -/
def anyCased : Folding → Nat → Nat → Bool
  | none, _, _ => false
  | ascii, first, last => Text.anyAsciiCased first last
  | full, first, last => Text.anyCased first last

end Folding

/-- Whether flags choose the classes of all scripts; they do unless they say otherwise. -/
def allScripts (flags : PatternFlags) : Bool :=
  match flags.characters with
  | some .ascii | some .locale => false
  | _ => true

/-- The folding that flags ask for. -/
def foldingOf (flags : PatternFlags) : Folding :=
  if !flags.ignoreCase then .none else if allScripts flags then .full else .ascii

/-- Whether a code point belongs to a class, among all scripts or in ASCII. -/
def Category.contains (kind : Category) (scripts : Bool) (code : Nat) : Bool :=
  if scripts then
    match kind with
    | .digit => Text.isDigit code
    | .blank => Text.isBlank code
    | .word => code == 0x5F || Text.isAlphanumeric code
  else
    match kind with
    | .digit => 0x30 ≤ code && code ≤ 0x39
    | .blank => code == 0x20 || (0x09 ≤ code && code ≤ 0x0D)
    | .word => code == 0x5F || (0x30 ≤ code && code ≤ 0x39) || (0x41 ≤ code && code ≤ 0x5A) ||
      (0x61 ≤ code && code ≤ 0x7A)

/-- The first code point outside the basic plane. -/
def planeSize : Nat := 0x10000

namespace SetItem

/-- Whether a member of a set is told apart by case. Outside the basic plane all single characters
and ranges count as such. -/
def isCased (folding : Folding) : SetItem → Bool
  | .single code => planeSize ≤ code || folding.anyCased code code
  | .range first last => planeSize ≤ last || folding.anyCased first last
  | .category .. => false

/-- Whether a folded code point belongs to a member of a set. Outside the basic plane a single
character stands for its own folded spelling only, and a range for the characters in it and for
those with an upper-case spelling in it. -/
def contains (folding : Folding) (scripts : Bool) (code : Nat) : SetItem → Bool
  | .single wanted =>
    if folding == .none || planeSize ≤ wanted then code == wanted
    else (folding.spellings code).contains wanted
  | .range first last =>
    if folding == .none then first ≤ code && code ≤ last
    else
      (folding.spellings code).any (fun c => first ≤ c && c ≤ last && c < planeSize) ||
        (planeSize ≤ last &&
          (first ≤ code && code ≤ last || first ≤ Text.upper code && Text.upper code ≤ last))
  | .category kind negated => kind.contains scripts code != negated

end SetItem

/-- A test of one character. -/
inductive Single where
  /-- One character, given in its folded spelling, or any other one. -/
  | literal (negated : Bool) (folding : Folding) (code : Nat)
  /-- Any character, or any but a line break. -/
  | any (lineBreaks : Bool)
  | set (negated : Bool) (folding : Folding) (scripts : Bool) (items : List SetItem)
deriving DecidableEq, Repr

namespace Single

/-- Whether a code point passes a test. -/
def accepts : Single → Nat → Bool
  | .literal negated folding wanted, code => (folding.apply code == wanted) != negated
  | .any lineBreaks, code => lineBreaks || code != 0x0A
  | .set negated folding scripts items, code =>
    items.any (SetItem.contains folding scripts (folding.apply code)) != negated

/-- The code point that a test asks for exactly. -/
def exactly? : Single → Option Nat
  | .literal false .none code => some code
  | _ => none

/-- Whether a test looks at a folded character for membership in a set. -/
def foldsIntoSet : Single → Bool
  | .set _ folding _ _ => folding != .none
  | _ => false

/-- The test for a character. A character with related spellings is a set of them. -/
def ofChar (flags : PatternFlags) (negated : Bool) (code : Nat) : Single :=
  let folding := foldingOf flags
  if !folding.anyCased code code then .literal negated .none code
  else
    let small := folding.apply code
    if folding == .full && !(Text.relatedTo small).isEmpty then
      .set negated .full true [.single small]
    else .literal negated folding small

/-- The test for a set of characters. -/
def ofSet (flags : PatternFlags) (negated : Bool) (items : List SetItem) : Single :=
  let folding := foldingOf flags
  .set negated (if folding != .none && items.any (SetItem.isCased folding) then folding else .none)
    (allScripts flags) items

end Single

mutual

/-- The test that a part stands for, if it matches one character. -/
def Node.single? (flags : PatternFlags) : Node → Option Single
  | .char negated code => some (.ofChar flags negated code)
  | .any => some (.any flags.dotAll)
  | .set negated items => some (.ofSet flags negated items)
  | .group none on off body => onlySingle? ((flags.union on).without off) body
  | _ => none

/-- The test of a sequence with one part. -/
def onlySingle? (flags : PatternFlags) : List Node → Option Single
  | [node] => node.single? flags
  | _ => none

end

end RecordCheck.Pattern
