import Mathlib
import RecordCheck.Proofs.WholeText

/-!
# E-mail addresses

The rule for e-mail addresses accepts exactly what its grammar says: a name, an at sign, and labels
between dots.

## Main definitions

* `Email.IsLabel`, `Email.IsAddress`: the grammar.

## Main statements

* `Match.email_accepts_iff`: the rule accepts addresses, and those with a line break after them.
-/
set_option autoImplicit false

namespace RecordCheck

/-! ## Grammar -/

namespace Email

/-- One to sixty-three letters, digits and hyphens, without a hyphen at either end. -/
structure IsLabel (cs : List Char) : Prop where
  nonempty : cs ≠ []
  short : cs.length ≤ 63
  known : ∀ c ∈ cs, c.isAlphanum = true ∨ c = '-'
  first : cs.head? ≠ some '-'
  last : cs.getLast? ≠ some '-'

/-- A character of the name before the at sign. -/
def IsNameChar (c : Char) : Prop :=
  c.isAlphanum = true ∨ c ∈ ".!#$%&'*+/=?^_`\x7b|\x7d~-".toList

/-- A name, an at sign, and labels between dots. -/
def IsAddress (cs : List Char) : Prop :=
  ∃ name labels, name ≠ [] ∧ (∀ c ∈ name, IsNameChar c) ∧ labels ≠ [] ∧
    (∀ label ∈ labels, IsLabel label) ∧ cs = name ++ '@' :: ['.'].intercalate labels

theorem getLast?_label (c d : Char) (inner : List Char) :
    (c :: (inner ++ [d])).getLast? = some d := by
  rw [← List.cons_append, List.getLast?_concat]

/-- A label is a letter or digit alone, or two with a number of characters between them. -/
theorem isLabel_iff {cs : List Char} : IsLabel cs ↔ ∃ c rest, cs = c :: rest ∧ c.isAlphanum = true ∧
    (rest = [] ∨ ∃ inner d, rest = inner ++ [d] ∧ inner.length ≤ 61 ∧
      (∀ x ∈ inner, x.isAlphanum = true ∨ x = '-') ∧ d.isAlphanum = true) := by
  constructor
  · intro h
    obtain ⟨c, rest, rfl⟩ := List.exists_cons_of_ne_nil h.nonempty
    have known := List.forall_mem_cons.1 h.known
    refine ⟨c, rest, rfl, known.1.resolve_right fun same => h.first (same ▸ rfl), ?_⟩
    obtain rfl | ⟨inner, d, rfl⟩ := rest.eq_nil_or_concat'
    · exact .inl rfl
    · have short := h.short
      simp only [List.length_cons, List.length_append, List.length_nil] at short
      have inside := List.forall_mem_append.1 known.2
      have last := (inside.2 d (.head _)).resolve_right fun same =>
        h.last (same ▸ getLast?_label c d inner)
      exact .inr ⟨inner, d, rfl, by omega, inside.1, last⟩
  · have plain {c : Char} (letter : c.isAlphanum = true) : c ≠ '-' := by
      rintro rfl
      exact absurd letter (by decide)
    rintro ⟨c, _, rfl, first, rfl | ⟨inner, d, rfl, short, known, last⟩⟩
    · exact ⟨by simp, by simp, by simp [first], by simp [plain first], by simp [plain first]⟩
    · refine ⟨by simp, by simp; omega, ?_, by simp [plain first],
        by simp [getLast?_label, plain last]⟩
      simp only [List.mem_cons, List.mem_append, List.not_mem_nil, or_false]
      rintro x (rfl | inside | rfl)
      · exact .inl first
      · exact known x inside
      · exact .inl last

end Email

/-! ## The pattern -/

namespace Pattern

open Email

section

variable {before taken after : List Char}

theorem accepts_alphanumerics (c : Char) :
    (Single.ofSet {} false alphanumerics).accepts c.toNat = c.isAlphanum := by
  rw [accepts_plain, any_alphanumerics]

theorem accepts_alphanumerics_each (cs : List Char) (c : Char) :
    (Single.ofSet {} false (alphanumerics ++ SetItem.each cs)).accepts c.toNat = true ↔
      c.isAlphanum = true ∨ c ∈ cs := by
  rw [accepts_plain, List.any_append, any_alphanumerics, any_each]
  simp

theorem spans_emailLabel : SpansAll {} emailLabel before taken after ↔ IsLabel taken := by
  have inner {before taken after : List Char} :
      SpansAll {} [.times 0 61 [.oneOf (alphanumerics ++ SetItem.each ['-'])],
        .oneOf alphanumerics] before taken after ↔ ∃ inner d, taken = inner ++ [d] ∧
        inner.length ≤ 61 ∧ (∀ x ∈ inner, x.isAlphanum = true ∨ x = '-') ∧
        d.isAlphanum = true := by
    rw [spansAll_cons]
    simp only [spansAll_single, Node.times, spans_repeat_oneOf, spans_oneOf, accepts_alphanumerics,
      accepts_alphanumerics_each, List.mem_singleton]
    constructor
    · rintro ⟨inner, _, rfl, ⟨-, short, known⟩, d, rfl, last⟩
      exact ⟨inner, d, rfl, short 61 rfl, known, last⟩
    · rintro ⟨inner, d, rfl, short, known, last⟩
      exact ⟨inner, [d], rfl, ⟨Nat.zero_le _, by simpa using short, known⟩, d, rfl, last⟩
  rw [isLabel_iff, emailLabel, spansAll_cons]
  simp only [spansAll_single, spans_maybe, spans_oneOf, accepts_alphanumerics, inner]
  constructor
  · rintro ⟨_, rest, rfl, ⟨c, rfl, first⟩, others⟩
    exact ⟨c, rest, rfl, first, others⟩
  · rintro ⟨c, rest, rfl, first, others⟩
    exact ⟨[c], rest, rfl, ⟨c, rfl, first⟩, others⟩

/-- The parts of the pattern between its anchors. -/
def emailInner : List Node :=
  [.plus [.oneOf (alphanumerics ++ SetItem.each emailMarks)], .one '@'] ++ emailLabel ++
    [.star (.one '.' :: emailLabel)]

theorem email_isAnchored : email.IsAnchored {} emailInner :=
  ⟨rfl, rfl, ⟨[], rfl⟩, rfl, ⟨0, rfl⟩⟩

theorem spans_name : SpansAll {} [.plus [.oneOf (alphanumerics ++ SetItem.each emailMarks)],
      .one '@'] before taken after ↔
    ∃ name, taken = name ++ ['@'] ∧ name ≠ [] ∧ ∀ c ∈ name, IsNameChar c := by
  rw [spansAll_cons]
  simp only [spansAll_single, spans_one (show '@'.toNat < 0x41 by decide), Node.plus,
    spans_repeat_oneOf, accepts_alphanumerics_each]
  constructor
  · rintro ⟨name, _, rfl, ⟨some, -, known⟩, rfl⟩
    exact ⟨name, rfl, List.ne_nil_of_length_pos some, known⟩
  · rintro ⟨name, rfl, some, known⟩
    exact ⟨name, _, rfl, ⟨List.length_pos_of_ne_nil some, by simp, known⟩, rfl⟩

theorem spans_emailInner : SpansAll {} emailInner before taken after ↔ IsAddress taken := by
  rw [emailInner, List.append_assoc, spansAll_append]
  simp only [Span.andThen, spans_name, spans_labels fun _ _ _ => spans_emailLabel]
  constructor
  · rintro ⟨_, _, rfl, ⟨name, rfl, some, known⟩, labels, labelled, formed, rfl⟩
    exact ⟨name, labels, some, known, labelled, formed, by simp⟩
  · rintro ⟨name, labels, some, known, labelled, formed, rfl⟩
    exact ⟨name ++ ['@'], _, by simp, ⟨name, rfl, some, known⟩, labels, labelled, formed, rfl⟩

end

end Pattern

/-! ## The rule -/

namespace Match

/-- The rule for e-mail addresses accepts the text of an address, which a line break may follow, and
reports its code of any other text. -/
theorem email_accepts_iff (s : String) :
    (email.apply (.str s) = .ok none ↔ Pattern.IsWhole Email.IsAddress s.toList) ∧
      (email.apply (.str s) = .ok none ∨
        email.apply (.str s) = .ok (some (.str Code.wrongEmail))) :=
  apply_anchored Pattern.email_isAnchored (fun _ _ => Pattern.spans_emailInner) s

end Match

end RecordCheck
