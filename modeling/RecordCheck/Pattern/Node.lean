import RecordCheck.Pattern.Flags

/-!
# Patterns as trees

The parts that patterns are made of, and the width of what a pattern matches. A sequence is a list
of parts. Characters are given by code points, so that a pattern can name code points that no text
holds.

## Main definitions

* `Node`: a part of a pattern.
* `Node.width`: the least and the greatest number of characters that a part matches.
* `Node.ofWays`: the alternatives that parts between bars stand for.
-/
set_option autoImplicit false

namespace RecordCheck.Pattern

/-- Classes of characters that have an escape of their own. -/
inductive Category where
  | digit | blank | word
deriving DecidableEq, Repr

/-- A member of a set of characters. -/
inductive SetItem where
  | single (code : Nat)
  | range (first last : Nat)
  | category (kind : Category) (negated : Bool)
deriving DecidableEq, Repr

/-- Places in a text that a pattern can ask for. -/
inductive Anchor where
  | lineStart | lineEnd | textStart | textEnd | wordBoundary | noWordBoundary
deriving DecidableEq, Repr

/-- How a repetition chooses the number of rounds: as many as possible first, as few as possible
first, or as many as possible without going back. -/
inductive Greed where
  | greedy | reluctant | possessive
deriving DecidableEq, Repr

/-- Parts of patterns. -/
inductive Node where
  /-- One character, or any other one. -/
  | char (negated : Bool) (code : Nat)
  /-- Any character but a line break. -/
  | any
  | set (negated : Bool) (items : List SetItem)
  | anchor (place : Anchor)
  /-- Parts in parentheses: remembers what they match under a number, if it has one, and changes
  flags inside them. -/
  | group (number : Option Nat) (on off : PatternFlags) (body : List Node)
  /-- One of several sequences, the first that fits. -/
  | choice (ways : List (List Node))
  | repeat (least : Nat) (most : Option Nat) (greed : Greed) (body : List Node)
  /-- Looks at the text after the place or before it, where the width is known. -/
  | look (behind negated : Bool) (width : Nat) (body : List Node)
  /-- Keeps to the first way that the body matches. -/
  | atomic (body : List Node)
  /-- The text remembered under a number. -/
  | backref (number : Nat)
  /-- Goes on according to whether something is remembered under a number. -/
  | cond (number : Nat) (yes no : List Node)
deriving Repr

/-! ## Widths -/

/-- The least and the greatest number of characters of a match; `none` when there is no greatest. -/
structure Width where
  least : Nat
  most : Option Nat
deriving DecidableEq, Repr

namespace Width

def exactly (n : Nat) : Width := ⟨n, some n⟩

def add (a b : Width) : Width :=
  ⟨a.least + b.least, match a.most, b.most with
    | some x, some y => some (x + y)
    | _, _ => none⟩

def join (a b : Width) : Width :=
  ⟨min a.least b.least, match a.most, b.most with
    | some x, some y => some (max x y)
    | _, _ => none⟩

/-- The width of a number of rounds. -/
def times (least : Nat) (most : Option Nat) (body : Width) : Width :=
  ⟨body.least * least, match most, body.most with
    | some 0, _ | _, some 0 => some 0
    | some n, some m => some (m * n)
    | _, _ => none⟩

/-- The greatest width that can be looked back over. -/
def greatestBack : Nat := 4294967295

/-- The number of characters, if it is always the same and not too great. -/
def fixed? (w : Width) : Option Nat :=
  if w.most == some w.least && w.least ≤ greatestBack then some w.least else none

end Width

mutual

/-- The width of a part, given the widths of the groups before it. -/
def Node.width (groups : List (Nat × Width)) : Node → Width
  | .anchor _ | .look .. => .exactly 0
  | .char .. | .any | .set .. => .exactly 1
  | .group _ _ _ body | .atomic body => widthOfAll groups body
  | .choice ways => widthOfWays groups ways
  | .repeat least most _ body => .times least most (widthOfAll groups body)
  | .backref number => (groups.lookup number).getD (.exactly 0)
  | .cond _ yes no => (widthOfAll groups yes).join (widthOfAll groups no)

/-- The width of a sequence. -/
def widthOfAll (groups : List (Nat × Width)) : List Node → Width
  | [] => .exactly 0
  | node :: rest => (node.width groups).add (widthOfAll groups rest)

/-- The width of one of several sequences. -/
def widthOfWays (groups : List (Nat × Width)) : List (List Node) → Width
  | [] => .exactly 0
  | [way] => widthOfAll groups way
  | way :: rest => (widthOfAll groups way).join (widthOfWays groups rest)

end

/-! ## Alternatives -/

namespace Node

/-- Whether two parts without parts of their own are the same. -/
def sameLeaf : Node → Node → Bool
  | .char m c, .char n d => m == n && c == d
  | .any, .any => true
  | .set m xs, .set n ys => m == n && xs == ys
  | .anchor a, .anchor b => a == b
  | .backref m, .backref n => m == n
  | _, _ => false

/-- Splits off the parts that all sequences start with, given the first sequence and the others. -/
def sharedStart : List Node → List (List Node) → List Node × List (List Node)
  | node :: rest, others =>
    if others.all fun way => (way.head?.map (sameLeaf node)).getD false then
      let (shared, left) := sharedStart rest (others.map (·.drop 1))
      (node :: shared, left)
    else ([], (node :: rest) :: others)
  | [], others => ([], [] :: others)

/-- The members of a sequence that is a single character or a set. -/
def members? : List Node → Option (List SetItem)
  | [.char false code] => some [.single code]
  | [.set false items] => some items
  | _ => none

/-- The parts that stand for one of several sequences. What all of them start with comes first, and
sequences of one character are gathered in a set. -/
def ofWays : List (List Node) → List Node
  | [] => []
  | [way] => way
  | way :: others =>
    let (shared, ways) := sharedStart way others
    match ways.mapM members? with
    | some items => shared ++ [.set false items.flatten.eraseDups]
    | none => shared ++ [.choice ways]

/-- The parts of a group that neither remembers nor changes anything. -/
def plainBody? : Node → Option (List Node)
  | .group none on off body => if on == {} && off == {} then some body else none
  | _ => none

/-- The sequence with plain groups taken apart. -/
def flattened (parts : List Node) : List Node :=
  parts.flatMap fun part => part.plainBody?.getD [part]

end Node

end RecordCheck.Pattern
