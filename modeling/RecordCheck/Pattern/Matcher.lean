import RecordCheck.Pattern.Program

/-!
# Matching by backtracking

Code is run at a place of a text and handed what is to follow it; it tries its ways of matching in
order until what follows succeeds. The memory is handed from one attempt to the next: inside a
repetition a failed attempt leaves the slots as they were, elsewhere it only gives up the slots that
it added. The recursion is on the code; what is repeated is bounded by the length of the text.

## Main definitions

* `Place`: a place in a text.
* `Memory`: the places that groups have remembered, and the last place that was worked on.
* `Code.exec`: the outcome of the first way of matching from a place that lets the rest succeed.
* `Program.search`: what is remembered by the first match in a text.
-/
set_option autoImplicit false

namespace RecordCheck.Pattern

/-- A place in a text: the characters before it, last first, and the characters after it. How many
these are is kept beside them. -/
structure Place where
  size : Nat
  index : Nat
  before : List Char
  after : List Char
deriving DecidableEq, Repr

namespace Place

/-- How many characters there are after a place. -/
def room (p : Place) : Nat := p.size - p.index

/-- The place after the next character, if that passes a test. -/
def step? (test : Nat → Bool) (p : Place) : Option Place :=
  match p.after with
  | c :: rest => if test c.toNat then some ⟨p.size, p.index + 1, c :: p.before, rest⟩ else none
  | [] => none

/-- The place a number of characters ahead, or the end. -/
def ahead : Nat → Place → Place
  | 0, p => p
  | n + 1, p =>
    match p.after with
    | c :: rest => ahead n ⟨p.size, p.index + 1, c :: p.before, rest⟩
    | [] => p

/-- The place a number of characters back, or the start. -/
def behind : Nat → Place → Place
  | 0, p => p
  | n + 1, p =>
    match p.before with
    | c :: rest => behind n ⟨p.size, p.index - 1, rest, c :: p.after⟩
    | [] => p

/-- The place a number of characters back. -/
def back? (width : Nat) (p : Place) : Option Place :=
  if width ≤ p.index then some (p.behind width) else none

/-- The place with a given index in the same text. -/
def moveTo (index : Nat) (p : Place) : Place :=
  if p.index ≤ index then p.ahead (index - p.index) else p.behind (p.index - index)

/-- The characters between two indices in the same text. -/
def slice (first last : Nat) (p : Place) : List Char :=
  ((p.moveTo first).after).take (last - first)

/-- The place after a given text, compared after folding. -/
def skip? (folding : Folding) : List Char → Place → Option Place
  | [], p => some p
  | c :: cs, p =>
    match p.step? fun code => folding.apply code == folding.apply c.toNat with
    | some q => skip? folding cs q
    | none => none

/-- The place and those after it, as far as each character passes a test and at most `most` of them
are taken. -/
def spreadFrom (test : Nat → Bool) (size index : Nat) (before : List Char) :
    List Char → Option Nat → List Place
  | [], _ => [⟨size, index, before, []⟩]
  | c :: rest, most =>
    ⟨size, index, before, c :: rest⟩ ::
      (if most != some 0 && test c.toNat then
        spreadFrom test size (index + 1) (c :: before) rest (most.map (· - 1))
      else [])

@[inherit_doc spreadFrom]
def spread (test : Nat → Bool) (p : Place) (most : Option Nat) : List Place :=
  spreadFrom test p.size p.index p.before p.after most

end Place

/-- What is remembered: the place in each slot, two slots to a group, and the last place that was
worked on. Slots beyond the list are empty. -/
structure Memory where
  slots : List (Option Nat) := []
  reached : Nat := 0
deriving DecidableEq, Repr

namespace Memory

/-- Works on a place. -/
def reach (m : Memory) (index : Nat) : Memory := { m with reached := index }

/-- Slots with a place put into one of them. -/
def fill (index : Nat) : Nat → List (Option Nat) → List (Option Nat)
  | 0, [] => [some index]
  | 0, _ :: slots => some index :: slots
  | slot + 1, [] => none :: fill index slot []
  | slot + 1, entry :: slots => entry :: fill index slot slots

def mark (m : Memory) (slot index : Nat) : Memory := { m with slots := fill index slot m.slots }

/-- The bounds of what a group has matched: it must have been closed, and not before it was opened.
-/
def span? (m : Memory) (group : Nat) : Option (Nat × Nat) :=
  match m.slots[2 * group - 2]?, m.slots[2 * group - 1]? with
  | some (some first), some (some last) => if first ≤ last then some (first, last) else none
  | _, _ => none

/-- The memory after a failed attempt that started with a given one. -/
def giveUp (m : Memory) (repeated : Bool) (started : Memory) : Memory :=
  { m with slots := if repeated then started.slots else m.slots.take started.slots.length }

/-- Whether two slots of a group are in the wrong order. -/
def isTangled (slots : List (Option Nat)) : Bool :=
  match slots with
  | some first :: some last :: rest => last < first || isTangled rest
  | _ :: _ :: rest => isTangled rest
  | _ => false

end Memory

/-- Whether a character belongs to a word. -/
def isWordChar (scripts : Bool) : Option Char → Bool
  | some c => Category.word.contains scripts c.toNat
  | none => false

/-- Whether a place is of a kind. No place of the empty text counts as a boundary, nor as none. -/
def Anchor.holds (place : Anchor) (multiline scripts : Bool) (p : Place) : Bool :=
  let boundary := isWordChar scripts p.before.head? != isWordChar scripts p.after.head?
  let isEmpty := p.before.isEmpty && p.after.isEmpty
  match place with
  | .textStart => p.before.isEmpty
  | .textEnd => p.after.isEmpty
  | .lineStart => p.before.isEmpty || (multiline && p.before.head? == some '\n')
  | .lineEnd =>
    if multiline then p.after.isEmpty || p.after.head? == some '\n'
    else p.after.isEmpty || p.after == ['\n']
  | .wordBoundary => boundary && !isEmpty
  | .noWordBoundary => !boundary && !isEmpty

/-- Whether an attempt has succeeded, and the memory after it. -/
abbrev Outcome := Bool × Memory

/-- What is to follow a match. -/
abbrev Follow := Place → Memory → Outcome

/-- Follows a match with nothing else. -/
def stop : Follow := fun p m => (true, m.reach p.index)

/-- An outcome, or what comes after a failed attempt. -/
@[inline] def orElse (outcome : Outcome) (next : Memory → Outcome) : Outcome :=
  match outcome with
  | (true, m) => (true, m)
  | (false, m) => next m

/-! ## Repetition of a test -/

/-- Tries what follows at one place after the other. -/
def tryAll (follow : Follow) (repeated : Bool) (started : Memory) : List Place → Memory → Outcome
  | [], m => (false, m)
  | p :: ps, m =>
    orElse (follow p (m.reach p.index)) fun failed =>
      tryAll follow repeated started ps (failed.giveUp repeated started)

/-- Tries what follows at a place and at those after it, as far as each character passes a test and
at most `most` of them are taken. -/
def tryOnward (test : Single) (follow : Follow) (repeated : Bool) (started : Memory)
    (size index : Nat) (before : List Char) : List Char → Option Nat → Memory → Outcome
  | [], _, m =>
    orElse (follow ⟨size, index, before, []⟩ (m.reach index)) fun m =>
      (false, (m.giveUp repeated started).reach index)
  | c :: rest, most, m =>
    orElse (follow ⟨size, index, before, c :: rest⟩ (m.reach index)) fun failed =>
      let m := failed.giveUp repeated started
      if test.accepts c.toNat then
        if most == some 0 then (false, m.reach (if test.foldsIntoSet then index + 1 else index))
        else
          tryOnward test follow repeated started size (index + 1) (c :: before) rest
            (most.map (· - 1)) m
      else (false, m.reach index)

/-- Whether the next character is a given one, if one is given. -/
def fits (wanted : Option Nat) (p : Place) : Bool :=
  match wanted, p.after with
  | none, _ => true
  | some code, c :: _ => c.toNat == code
  | some _, [] => false

/-- Repeats a test and goes on. `wanted` is the character that what follows begins with, if that is
known. -/
def execRun (greed : Greed) (least : Nat) (most : Option Nat) (test : Single) (wanted : Option Nat)
    (repeated : Bool) (follow : Follow) (p : Place) (m : Memory) : Outcome :=
  if p.room < least then (false, m)
  else
    let places := p.spread test.accepts (if greed == .reluctant then some least else most)
    let taken := places.length - 1
    let counted : Memory := m.reach (if test.foldsIntoSet then p.index + taken else p.index)
    if taken < least then (false, counted)
    else match greed with
    | .greedy =>
      tryAll follow repeated m (((places.drop least).reverse).filter (fits wanted)) counted
    | .possessive =>
      match places.getLast? with
      | some q => follow q counted
      | none => (false, counted)
    | .reluctant =>
      let q := p.ahead least
      tryOnward test follow repeated m q.size q.index q.before q.after (most.map (· - least))
        counted

/-! ## Repetition of a body -/

/-- Rounds that must be made. -/
def requiredRounds (round : Follow → Follow) : Nat → Follow → Follow
  | 0, follow => follow
  | n + 1, follow => fun p m =>
    orElse (round (requiredRounds round n follow) p (m.reach p.index)) fun m =>
      (false, m.reach p.index)

/-- Rounds that may be made, at most `most` of them, as many as possible first. A round that takes
no character is the last one; `last` is the place where the round before began. -/
def greedyRounds (round : Follow → Follow) (follow : Follow) :
    Nat → Option Nat → Option Nat → Follow
  | fuel, most, last, p, m =>
    let leave (m : Memory) : Outcome :=
      orElse (follow p (m.reach p.index)) fun m => (false, m.reach p.index)
    match fuel with
    | 0 => leave m
    | fuel + 1 =>
      if most == some 0 || last == some p.index then leave m
      else
        orElse
          (round (greedyRounds round follow fuel (most.map (· - 1)) (some p.index)) p
            (m.reach p.index))
          fun failed => leave (failed.giveUp true m)

/-- Rounds that may be made, at most `most` of them, as few as possible first. -/
def reluctantRounds (round : Follow → Follow) (follow : Follow) (repeated : Bool) :
    Nat → Option Nat → Option Nat → Follow
  | fuel, most, last, p, m =>
    orElse (follow p (m.reach p.index)) fun failed =>
      let back := (failed.giveUp repeated m).reach p.index
      match fuel with
      | 0 => (false, back)
      | fuel + 1 =>
        if most == some 0 || last == some p.index then (false, back)
        else
          orElse
            (round (reluctantRounds round follow repeated fuel (most.map (· - 1)) (some p.index)) p
              back)
            fun m => (false, m.reach p.index)

/-- Rounds that must be made, each in its first way. -/
def requiredFirst (round : Follow → Follow) : Nat → Place → Memory → Outcome
  | 0, _, m => (true, m)
  | n + 1, p, m =>
    match round stop p m with
    | (true, after) => requiredFirst round n (p.moveTo after.reached) after
    | failed => failed

/-- Rounds that may be made, each in its first way, as many as possible. What they leave is where
the last attempt was, also when it failed. -/
def possessiveRounds (round : Follow → Follow) :
    Nat → Option Nat → Option Nat → Place → Memory → Memory
  | 0, _, _, _, m => m
  | fuel + 1, most, last, p, m =>
    if most == some 0 || last == some m.reached then m
    else
      let q := p.moveTo m.reached
      match round stop q m with
      | (true, after) => possessiveRounds round fuel (most.map (· - 1)) (some m.reached) q after
      | (false, after) => after.giveUp true m

/-- A bound for the number of rounds that may be made in a text. -/
def roundBound (p : Place) : Nat := (p.size + 2) * (p.size + 2)

/-! ## Running code -/

namespace Code

/-- The character that code begins with, if that is known. -/
def wanted? : Code → Option Nat
  | .single test _ => test.exactly?
  | _ => none

/-- Whether a way can be left out because the next character does not fit it. -/
def misfits (p : Place) : Code → Bool
  | .single test _ =>
    match test with
    | .literal false .none _ | .set _ .none _ _ => (p.step? test.accepts).isNone
    | _ => false
  | _ => false

/-- Runs code from a place. `repeated` tells whether this happens inside a repetition. -/
def exec : Code → Bool → Follow → Follow
  | .done, _, follow, p, m => follow p m
  | .seq a b, repeated, follow, p, m => a.exec repeated (b.exec repeated follow) p m
  | .single test next, repeated, follow, p, m =>
    match p.step? test.accepts with
    | some q => next.exec repeated follow q m
    | none => (false, m)
  | .anchor place multiline scripts next, repeated, follow, p, m =>
    if place.holds multiline scripts p then next.exec repeated follow p m else (false, m)
  | .mark slot next, repeated, follow, p, m => next.exec repeated follow p (m.mark slot p.index)
  | .noWay, _, _, _, m => (false, m)
  | .way first others, repeated, follow, p, m =>
    if first.misfits p then others.exec repeated follow p m
    else
      orElse (first.exec repeated follow p (m.reach p.index)) fun failed =>
        others.exec repeated follow p (failed.giveUp repeated m)
  | .run greed least most test next, repeated, follow, p, m =>
    execRun greed least most test next.wanted? repeated (next.exec repeated follow) p m
  | .loop greed least most body next, repeated, follow, p, m =>
    let more := most.map (· - least)
    let leave : Follow := next.exec repeated follow
    match greed with
    | .greedy =>
      requiredRounds (body.exec true) least
        (fun q => greedyRounds (body.exec true) leave (roundBound q) more none q) p
        (m.reach p.index)
    | .reluctant =>
      requiredRounds (body.exec true) least
        (fun q => reluctantRounds (body.exec true) leave repeated (roundBound q) more none q) p
        (m.reach p.index)
    | .possessive =>
      match requiredFirst (body.exec repeated) least p (m.reach p.index) with
      | (true, m) =>
        let after := possessiveRounds (body.exec repeated) (roundBound p) more none p m
        leave (p.moveTo after.reached) after
      | (false, m) => (false, m.reach p.index)
  | .look negated back body next, repeated, follow, p, m =>
    match p.back? back with
    | none => if negated then next.exec repeated follow p m else (false, m)
    | some q =>
      match body.exec repeated stop q (m.reach q.index), negated with
      | (true, m), false => next.exec repeated follow p m
      | (false, failed), true => next.exec repeated follow p (failed.giveUp repeated m)
      | (_, m), _ => (false, m)
  | .atomic body next, repeated, follow, p, m =>
    match body.exec repeated stop p (m.reach p.index) with
    | (true, m) => next.exec repeated follow (p.moveTo m.reached) m
    | (false, m) => (false, m.reach p.index)
  | .backref folding group next, repeated, follow, p, m =>
    match (m.span? group).bind fun (first, last) => p.skip? folding (p.slice first last) with
    | some q => next.exec repeated follow q m
    | none => (false, m)
  | .cond group yes no, repeated, follow, p, m =>
    if (m.span? group).isSome then yes.exec repeated follow p m else no.exec repeated follow p m

section

variable (test : Single) (slot : Nat) (first others next : Code) (repeated : Bool) (follow : Follow)
  (p : Place) (m : Memory)

theorem exec_single : (single test next).exec repeated follow p m =
    match p.step? test.accepts with
    | some q => next.exec repeated follow q m
    | none => (false, m) := rfl

theorem exec_mark : (mark slot next).exec repeated follow p m =
    next.exec repeated follow p (m.mark slot p.index) := rfl

theorem exec_way : (way first others).exec repeated follow p m =
    if first.misfits p then others.exec repeated follow p m
    else
      orElse (first.exec repeated follow p (m.reach p.index)) fun failed =>
        others.exec repeated follow p (failed.giveUp repeated m) := rfl

end

end Code

/-! ## Searching -/

namespace Program

/-- Whether a match can start at a place. -/
def canStart (program : Program) (p : Place) : Bool :=
  match program.start with
  | .withRoom => program.least ≤ p.room + 1
  | .anywhere => true
  | .before test => (p.step? test.accepts).isSome

/-- The outcome of a match that starts at a place. -/
def matchAt (program : Program) (p : Place) : Outcome :=
  if program.canStart p then program.code.exec false stop p { reached := p.index } else (false, {})

/-- What is remembered by the first match that starts at a place or at a later one. -/
def searchFrom (program : Program) (size index : Nat) (before : List Char) :
    List Char → Option Memory
  | [] =>
    match program.matchAt ⟨size, index, before, []⟩ with
    | (true, m) => some m
    | (false, _) => none
  | c :: rest =>
    match program.matchAt ⟨size, index, before, c :: rest⟩ with
    | (true, m) => some m
    | (false, _) => searchFrom program size (index + 1) (c :: before) rest

/-- What is remembered by the first match in a text. -/
def search (program : Program) (text : List Char) : Option Memory :=
  if text.length < program.least then none else searchFrom program text.length 0 [] text

end Program

end RecordCheck.Pattern
