import Mathlib
import RecordCheck.Proofs.Backtracking
import RecordCheck.Proofs.CaseFolding
import RecordCheck.Proofs.Remembering
import RecordCheck.Rule.Match

/-!
# Patterns for a whole text

A plain pattern between an anchor at the start of a line and one at the end is a pattern for the
whole text, but for a line break that may follow.

## Main definitions

* `IsWhole`: a text of some form, or one with a line break after it.

## Main statements

* `Match.apply_anchored`: the rule for such a pattern accepts the texts that its parts match.
-/
set_option autoImplicit false

namespace RecordCheck

namespace Pattern

/-- A text of a form, which a single line break may follow. -/
def IsWhole (form : List Char → Prop) (text : List Char) : Prop :=
  ∃ body, form body ∧ (text = body ∨ text = body ++ ['\n'])

/-! ## Parts -/

section Parts

variable {flags : PatternFlags} {before taken after : List Char}

theorem spans_maybe {body : List Node} : (Node.maybe body).Spans flags before taken after ↔
    taken = [] ∨ SpansAll flags body before taken after := by
  constructor
  · rintro ⟨n, -, few, many⟩
    match n, few 1 rfl, many with
    | 0, _, nothing => exact .inl nothing
    | 1, _, one => exact .inr (Span.andThen_nothing.1 one)
  · rintro (rfl | one)
    · exact ⟨0, Nat.le_refl _, fun _ _ => Nat.zero_le _, rfl⟩
    · exact ⟨1, Nat.zero_le _, fun _ given => (Option.some.inj given).le,
        Span.andThen_nothing.2 one⟩

/-- A repeated test matches the characters that pass it, not too few and not too many. -/
theorem spans_repeat {node : Node} {test : Single} (single : node.single? flags = some test)
    (least : Nat) (most : Option Nat) (greed : Greed) :
    (Node.repeat least most greed [node]).Spans flags before taken after ↔
      least ≤ taken.length ∧ (∀ limit ∈ most, taken.length ≤ limit) ∧
        ∀ c ∈ taken, test.accepts c.toNat = true := by
  have same : SpansAll flags [node] = Span.one test.accepts := by
    funext before taken after
    exact propext (spansAll_single.trans (node.spans_of_single single))
  simp only [Node.Spans, Span.times, same, Span.rounds_one]
  constructor
  · rintro ⟨_, enough, few, rfl, passed⟩
    exact ⟨enough, few, passed⟩
  · rintro ⟨enough, few, passed⟩
    exact ⟨_, enough, few, rfl, passed⟩

theorem spans_repeat_oneOf {items : List SetItem} {least : Nat} {most : Option Nat}
    {greed : Greed} : (Node.repeat least most greed [.oneOf items]).Spans flags before taken after ↔
      least ≤ taken.length ∧ (∀ limit ∈ most, taken.length ≤ limit) ∧
        ∀ c ∈ taken, (Single.ofSet flags false items).accepts c.toNat = true :=
  spans_repeat rfl least most greed

/-- Where what is matched does not depend on the text around, repetitions match any number of such
texts in a row. -/
theorem spans_star {body : List Node} {form : List Char → Prop}
    (each : ∀ before taken after, SpansAll flags body before taken after ↔ form taken) :
    (Node.star body).Spans flags before taken after ↔
      ∃ pieces : List (List Char), (∀ piece ∈ pieces, form piece) ∧ taken = pieces.flatten := by
  constructor
  · rintro ⟨n, -, -, many⟩
    induction n generalizing before taken with
    | zero => exact ⟨[], by simp, many⟩
    | succ n ih =>
      obtain ⟨first, second, rfl, one, others⟩ := many
      obtain ⟨pieces, formed, rfl⟩ := ih others
      exact ⟨first :: pieces, List.forall_mem_cons.2 ⟨(each _ _ _).1 one, formed⟩, rfl⟩
  · rintro ⟨pieces, formed, rfl⟩
    refine ⟨pieces.length, Nat.zero_le _, by simp, ?_⟩
    induction pieces generalizing before with
    | nil => rfl
    | cons piece pieces ih =>
      obtain ⟨one, others⟩ := List.forall_mem_cons.1 formed
      exact ⟨piece, pieces.flatten, rfl, (each _ _ _).2 one, ih others⟩

theorem spansAll_cons {node : Node} {rest : List Node} :
    SpansAll flags (node :: rest) before taken after ↔ ∃ first second, taken = first ++ second ∧
      node.Spans flags before first (second ++ after) ∧
      SpansAll flags rest (first.reverse ++ before) second after := Iff.rfl

/-- A digit or mark before the letters stands for itself. -/
theorem accepts_one {c : Char} (small : c.toNat < 0x41) (d : Char) :
    (Single.ofChar flags false c.toNat).accepts d.toNat = true ↔ d = c := by
  simp [ofChar_of_lt small, Single.accepts, Folding.apply, Char.toNat_inj]

theorem spans_one {c : Char} (small : c.toNat < 0x41) :
    (Node.one c).Spans flags before taken after ↔ taken = [c] := by
  simp only [Node.one, Node.Spans, Span.one, accepts_one small, exists_eq_right]

theorem spans_repeat_one {c : Char} (small : c.toNat < 0x41) {least : Nat} {most : Option Nat}
    {greed : Greed} : (Node.repeat least most greed [.one c]).Spans flags before taken after ↔
      least ≤ taken.length ∧ (∀ limit ∈ most, taken.length ≤ limit) ∧ ∀ d ∈ taken, d = c := by
  have single : (Node.one c).single? flags = some (Single.ofChar flags false c.toNat) := rfl
  simp only [spans_repeat single, accepts_one small]

theorem spans_oneOf {items : List SetItem} : (Node.oneOf items).Spans flags before taken after ↔
    ∃ c, taken = [c] ∧ (Single.ofSet flags false items).accepts c.toNat = true := Iff.rfl

theorem spansAll_nil : SpansAll flags [] before taken after ↔ taken = [] := Iff.rfl

/-- A test for one character takes the first one. -/
theorem spansAll_of_single {node : Node} {test : Single} (single : node.single? flags = some test)
    {rest : List Node} : SpansAll flags (node :: rest) before taken after ↔
      ∃ c others, taken = c :: others ∧ test.accepts c.toNat = true ∧
        SpansAll flags rest (c :: before) others after := by
  simp only [spansAll_cons, node.spans_of_single single]
  constructor
  · rintro ⟨_, others, rfl, ⟨c, rfl, passed⟩, rest⟩
    exact ⟨c, others, rfl, passed, rest⟩
  · rintro ⟨c, others, rfl, passed, rest⟩
    exact ⟨[c], others, rfl, ⟨c, rfl, passed⟩, rest⟩

theorem spansAll_one {c : Char} (small : c.toNat < 0x41) {rest : List Node} :
    SpansAll flags (.one c :: rest) before taken after ↔
      ∃ d others, taken = d :: others ∧ d.toNat = c.toNat ∧
        SpansAll flags rest (d :: before) others after := by
  have single : (Node.one c).single? flags = some (Single.ofChar flags false c.toNat) := rfl
  simp only [spansAll_of_single single, accepts_one small, Char.toNat_inj]

theorem spansAll_oneOf {items : List SetItem} {rest : List Node} :
    SpansAll flags (.oneOf items :: rest) before taken after ↔
      ∃ c others, taken = c :: others ∧ (Single.ofSet flags false items).accepts c.toNat = true ∧
        SpansAll flags rest (c :: before) others after :=
  spansAll_of_single rfl

end Parts

/-! ## Labels between dots -/

section Labels

variable {flags : PatternFlags} {label : List Node} {form : List Char → Prop}
  {before taken after : List Char}

theorem intercalate_dots (first : List Char) (labels : List (List Char)) :
    ['.'].intercalate (first :: labels) = first ++ (labels.map ('.' :: ·)).flatten := by
  induction labels generalizing first with
  | nil => simp
  | cons next labels ih => rw [List.intercalate_cons_cons, ih]; simp

theorem spans_moreLabels
    (each : ∀ before taken after, SpansAll flags label before taken after ↔ form taken) :
    (Node.star (.one '.' :: label)).Spans flags before taken after ↔
      ∃ labels : List (List Char), (∀ label ∈ labels, form label) ∧
        taken = (labels.map ('.' :: ·)).flatten := by
  have piece (before taken after : List Char) :
      SpansAll flags (.one '.' :: label) before taken after ↔
        ∃ label, form label ∧ taken = '.' :: label := by
    simp only [spansAll_cons, spans_one (show '.'.toNat < 0x41 by decide), each]
    constructor
    · rintro ⟨_, label, rfl, rfl, formed⟩
      exact ⟨label, formed, rfl⟩
    · rintro ⟨label, formed, rfl⟩
      exact ⟨['.'], label, rfl, rfl, formed⟩
  rw [spans_star piece]
  constructor
  · rintro ⟨pieces, formed, rfl⟩
    induction pieces with
    | nil => exact ⟨[], by simp, rfl⟩
    | cons piece pieces ih =>
      obtain ⟨⟨label, first, rfl⟩, others⟩ := List.forall_mem_cons.1 formed
      obtain ⟨labels, known, same⟩ := ih others
      exact ⟨label :: labels, List.forall_mem_cons.2 ⟨first, known⟩, by simp [same]⟩
  · rintro ⟨labels, known, rfl⟩
    refine ⟨labels.map ('.' :: ·), ?_, rfl⟩
    rintro _ member
    obtain ⟨label, given, rfl⟩ := List.mem_map.1 member
    exact ⟨label, known label given, rfl⟩

/-- A label and any number of others after dots match labels between dots. -/
theorem spans_labels
    (each : ∀ before taken after, SpansAll flags label before taken after ↔ form taken) :
    SpansAll flags (label ++ [.star (.one '.' :: label)]) before taken after ↔
      ∃ labels, labels ≠ [] ∧ (∀ label ∈ labels, form label) ∧
        taken = ['.'].intercalate labels := by
  simp only [spansAll_append, Span.andThen, each, spansAll_single, spans_moreLabels each]
  constructor
  · rintro ⟨first, _, rfl, one, labels, others, rfl⟩
    exact ⟨first :: labels, List.cons_ne_nil _ _, List.forall_mem_cons.2 ⟨one, others⟩,
      (intercalate_dots first labels).symm⟩
  · rintro ⟨_ | ⟨first, labels⟩, some, known, rfl⟩
    · exact absurd rfl some
    · obtain ⟨one, others⟩ := List.forall_mem_cons.1 known
      exact ⟨first, _, intercalate_dots first labels, one, labels, others, rfl⟩

end Labels

/-! ## Sets of characters -/

theorem ofDigitChars_two (c d : Char) :
    Nat.ofDigitChars 10 [c, d] 0 = 10 * (c.toNat - 48) + (d.toNat - 48) := by
  simp [Nat.ofDigitChars]

/-- Case does not matter to a set without members that case tells apart. -/
theorem accepts_uncased {flags : PatternFlags} {items : List SetItem}
    (uncased : items.any (SetItem.isCased (foldingOf flags)) = false) (code : Nat) :
    (Single.ofSet flags false items).accepts code =
      items.any (SetItem.contains .none (allScripts flags) code) := by
  simp [Single.ofSet, Single.accepts, Folding.apply, uncased]

/-- A range of digits and marks before the letters asks for a character in it. -/
theorem accepts_between {flags : PatternFlags} {first last : Char} (small : last.toNat < 0x41)
    (c : Char) : (Single.ofSet flags false [.between first last]).accepts c.toNat = true ↔
      first.toNat ≤ c.toNat ∧ c.toNat ≤ last.toNat := by
  have uncased : [SetItem.between first last].any (SetItem.isCased (foldingOf flags)) = false := by
    simpa [SetItem.between] using isCased_of_lt small
  rw [accepts_uncased uncased]
  simp [SetItem.between, SetItem.contains]

theorem accepts_plain (items : List SetItem) (code : Nat) :
    (Single.ofSet {} false items).accepts code = items.any (SetItem.contains .none true code) := by
  simp [Single.ofSet, Single.accepts, Folding.apply, foldingOf, allScripts]

theorem spansAll_between {flags : PatternFlags} {first last : Char} (small : last.toNat < 0x41)
    {rest : List Node} {before taken after : List Char} :
    SpansAll flags (.oneOf [.between first last] :: rest) before taken after ↔
      ∃ c others, taken = c :: others ∧ (first.toNat ≤ c.toNat ∧ c.toNat ≤ last.toNat) ∧
        SpansAll flags rest (c :: before) others after := by
  simp only [spansAll_oneOf, accepts_between small]

theorem any_each (cs : List Char) (c : Char) :
    (SetItem.each cs).any (SetItem.contains .none true c.toNat) = cs.contains c := by
  induction cs with
  | nil => rfl
  | cons d cs ih =>
    have one : (SetItem.single d.toNat).contains .none true c.toNat = (c == d) := by
      rw [SetItem.contains, Bool.eq_iff_iff]
      simp [Char.toNat_inj]
    rw [SetItem.each, List.map_cons, List.any_cons, List.contains_cons, ← ih, one]
    rfl

/-- Marks and digits that case does not tell apart stand for themselves. -/
theorem accepts_each {flags : PatternFlags} {cs : List Char} (scripts : allScripts flags = true)
    (uncased : (SetItem.each cs).any (SetItem.isCased (foldingOf flags)) = false) (c : Char) :
    (Single.ofSet flags false (SetItem.each cs)).accepts c.toNat = true ↔ c ∈ cs := by
  rw [accepts_uncased uncased, scripts, any_each, List.contains_iff_mem]

theorem isAlphanum_iff (c : Char) : c.isAlphanum = true ↔ (97 ≤ c.toNat ∧ c.toNat ≤ 122) ∨
    (65 ≤ c.toNat ∧ c.toNat ≤ 90) ∨ 48 ≤ c.toNat ∧ c.toNat ≤ 57 := by
  simp [Char.isAlphanum, Char.isAlpha, Char.isUpper, Char.isLower, Char.isDigit,
    UInt32.le_iff_toNat_le]
  omega

theorem any_alphanumerics (c : Char) :
    alphanumerics.any (SetItem.contains .none true c.toNat) = c.isAlphanum := by
  rw [Bool.eq_iff_iff, isAlphanum_iff]
  simp [alphanumerics, SetItem.between, SetItem.contains]

/-! ## Anchors -/

/-- Parts between the start and the end of a line. -/
def anchored (parts : List Node) : List Node := .anchor .lineStart :: (parts ++ [.anchor .lineEnd])

theorem spans_lineStart {flags : PatternFlags} (oneLine : flags.multiline = false)
    {before taken after : List Char} :
    (Node.anchor .lineStart).Spans flags before taken after ↔ taken = [] ∧ before = [] := by
  simp [Node.Spans, Anchor.holds, oneLine]

theorem spans_lineEnd {flags : PatternFlags} (oneLine : flags.multiline = false)
    {before taken after : List Char} : (Node.anchor .lineEnd).Spans flags before taken after ↔
      taken = [] ∧ (after = [] ∨ after = ['\n']) := by
  simp [Node.Spans, Anchor.holds, oneLine]

theorem spans_anchored {flags : PatternFlags} (oneLine : flags.multiline = false)
    {parts : List Node} {before taken after : List Char} :
    SpansAll flags (anchored parts) before taken after ↔
      before = [] ∧ SpansAll flags parts [] taken after ∧ (after = [] ∨ after = ['\n']) := by
  rw [anchored, spansAll_cons]
  simp only [spansAll_append, spans_lineStart oneLine, Span.andThen, spansAll_single,
    spans_lineEnd oneLine]
  constructor
  · rintro ⟨_, _, rfl, ⟨rfl, rfl⟩, body, _, rfl, spans, rfl, ends⟩
    simpa using ⟨spans, ends⟩
  · rintro ⟨rfl, spans, ends⟩
    exact ⟨[], taken, rfl, ⟨rfl, rfl⟩, taken, [], by simp, spans, rfl, ends⟩

theorem start_anchored {flags : PatternFlags} {widths : List (Nat × Width)} {parts : List Node}
    (test : Single) : (Program.ofParts flags widths (anchored parts)).start ≠ .before test := by
  change startOf flags _ (anchored parts) ≠ _
  unfold startOf
  split
  · exact nofun
  · exact nofun

/-- A pattern over text whose plain parts stand between anchors. -/
structure IsAnchored (p : Pattern) (flags : PatternFlags) (parts : List Node) : Prop where
  isText : p.isText = true
  oneLine : flags.multiline = false
  program : ∃ widths, p.program = .ofParts flags widths (anchored parts)
  plain : arePlain (anchored parts) = true
  counted : ∃ n, countAll 0 (anchored parts) = some n

section

variable {p : Pattern} {flags : PatternFlags} {parts : List Node}

theorem IsAnchored.found (h : p.IsAnchored flags parts) (text : List Char) :
    p.found text = .ok (p.program.search text).isSome :=
  let ⟨_, program⟩ := h.program
  let ⟨_, counted⟩ := h.counted
  found_plain h.isText program h.plain counted text

theorem IsAnchored.search_iff (h : p.IsAnchored flags parts) (text : List Char) :
    (p.program.search text).isSome = true ↔ ∃ body rest, text = body ++ rest ∧
      SpansAll flags parts [] body rest ∧ (rest = [] ∨ rest = ['\n']) := by
  obtain ⟨widths, program⟩ := h.program
  rw [program, Program.search_isSome_iff h.plain start_anchored]
  simp only [spans_anchored h.oneLine]
  constructor
  · rintro ⟨skipped, body, rest, rfl, none, spans, ends⟩
    obtain rfl := List.reverse_eq_nil_iff.1 none
    exact ⟨body, rest, rfl, spans, ends⟩
  · rintro ⟨body, rest, rfl, spans, ends⟩
    exact ⟨[], body, rest, rfl, rfl, spans, ends⟩

end

end Pattern

namespace Match

open Pattern

variable {m : Match} {flags : PatternFlags} {parts : List Node}

/-- The verdict on a scalar is that of the search in its text. -/
theorem apply_of_found {v : Value} {text : String} {b : Bool} (scalar : v.isScalar = true)
    (written : Error.textOf v = .ok text) (found : m.pattern.found text.toList = .ok b) :
    m.apply v = .ok (if b then none else some m.error) := by
  rw [apply, if_pos scalar, written]
  change (m.pattern.found text.toList >>= _) = _
  rw [found]
  cases b <;> rfl

/-- The rule for an anchored pattern has a verdict on every text, and accepts what its parts match.
-/
theorem apply_anchored (h : m.pattern.IsAnchored flags parts) {form : List Char → Prop}
    (meaning : ∀ body after, SpansAll flags parts [] body after ↔ form body) (s : String) :
    (m.apply (.str s) = .ok none ↔ IsWhole form s.toList) ∧
      (m.apply (.str s) = .ok none ∨ m.apply (.str s) = .ok (some m.error)) := by
  have verdict := apply_of_found (m := m) (v := .str s) rfl rfl (h.found s.toList)
  have whole : (m.pattern.program.search s.toList).isSome = true ↔ IsWhole form s.toList := by
    rw [h.search_iff]
    simp only [meaning]
    constructor
    · rintro ⟨body, rest, split, formed, rfl | rfl⟩
      · exact ⟨body, formed, .inl (by simpa using split)⟩
      · exact ⟨body, formed, .inr split⟩
    · rintro ⟨body, formed, same | same⟩
      · exact ⟨body, [], by simpa using same, formed, .inl rfl⟩
      · exact ⟨body, ['\n'], same, formed, .inr rfl⟩
  rw [← whole, verdict]
  cases (m.pattern.program.search s.toList).isSome <;> simp

end Match

end RecordCheck
