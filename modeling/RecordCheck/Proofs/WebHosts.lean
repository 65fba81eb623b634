import Mathlib
import RecordCheck.Proofs.WholeText

/-!
# Hosts

What stands for the host of a web address: four numbers between dots, or names between dots. The
letters of names take in all characters from U+00A1 to U+FFFF.

## Main definitions

* `Web.IsFour`, `Web.IsHost`: the forms of a host.

## Main statements

* `Pattern.spans_four`, `Pattern.spans_host`: what the parts of the pattern for a host match.
-/
set_option autoImplicit false

namespace RecordCheck

/-! ## Grammar -/

namespace Web

/-- Characters of the basic plane beyond the controls and the space of Latin-1. -/
def IsWide (c : Char) : Prop := 0xA1 ≤ c.toNat ∧ c.toNat ≤ 0xFFFF

instance : DecidablePred IsWide := fun _ => inferInstanceAs (Decidable (_ ∧ _))

/-- Up to three digits for a number that is not too great. If they begin with a zero, there are
only a few. -/
structure IsNumber (most zeros : Nat) (cs : List Char) : Prop where
  nonempty : cs ≠ []
  short : cs.length ≤ 3
  digits : ∀ c ∈ cs, c.isDigit = true
  le_most : Nat.ofDigitChars 10 cs 0 ≤ most
  zero : cs.head? = some '0' → cs.length ≤ zeros

/-- Four numbers between dots. -/
def IsFour (cs : List Char) : Prop :=
  ∃ first second third fourth, cs = ['.'].intercalate [first, second, third, fourth] ∧
    IsNumber 223 0 first ∧ IsNumber 255 2 second ∧ IsNumber 255 2 third ∧ IsNumber 254 0 fourth

/-- Letters, digits and hyphens, without a hyphen at either end. -/
structure IsName (cs : List Char) : Prop where
  nonempty : cs ≠ []
  known : ∀ c ∈ cs, (c.isAlphanum = true ∨ IsWide c) ∨ c = '-'
  first : cs.head? ≠ some '-'
  last : cs.getLast? ≠ some '-'

/-- Names between dots and a last one of two letters or more, which a dot may follow. -/
def IsHost (cs : List Char) : Prop :=
  ∃ names top dot, names ≠ [] ∧ (∀ name ∈ names, IsName name) ∧ 2 ≤ top.length ∧
    (∀ c ∈ top, c.isAlpha = true ∨ IsWide c) ∧ (dot = [] ∨ dot = ['.']) ∧
    cs = ['.'].intercalate names ++ '.' :: (top ++ dot)

end Web

namespace Pattern

open Web

section

variable {before taken after : List Char}

/-! ## Numbers between dots -/

/-- The numbers with one, two and three digits. -/
theorem isNumber_iff {most zeros : Nat} (large : 99 ≤ most) (few : zeros ≤ 2) {cs : List Char} :
    IsNumber most zeros cs ↔
      (∃ c, cs = [c] ∧ (48 ≤ c.toNat ∧ c.toNat ≤ 57) ∧ (c.toNat = 48 → 1 ≤ zeros)) ∨
      (∃ c d, cs = [c, d] ∧ (48 ≤ c.toNat ∧ c.toNat ≤ 57) ∧ (48 ≤ d.toNat ∧ d.toNat ≤ 57) ∧
        (c.toNat = 48 → 2 ≤ zeros)) ∨
      ∃ c d e, cs = [c, d, e] ∧ (49 ≤ c.toNat ∧ c.toNat ≤ 57) ∧ (48 ≤ d.toNat ∧ d.toNat ≤ 57) ∧
        (48 ≤ e.toNat ∧ e.toNat ≤ 57) ∧
        100 * (c.toNat - 48) + 10 * (d.toNat - 48) + (e.toNat - 48) ≤ most := by
  have leads (c : Char) (others : List Char) : (c :: others).head? = some '0' ↔ c.toNat = 48 := by
    rw [List.head?_cons, Option.some_inj, ← Char.toNat_inj]
    rfl
  have value (c d e : Char) : Nat.ofDigitChars 10 [c, d, e] 0 =
      10 * (10 * (c.toNat - 48) + (d.toNat - 48)) + (e.toNat - 48) := by
    simp [Nat.ofDigitChars]
  have least (c : Char) : Nat.ofDigitChars 10 [c] 0 = c.toNat - 48 := by
    simp [Nat.ofDigitChars]
  constructor
  · rintro ⟨nonempty, short, digits, bound, zero⟩
    rcases cs with _ | ⟨c, _ | ⟨d, _ | ⟨e, _ | ⟨f, more⟩⟩⟩⟩
    · exact absurd rfl nonempty
    · simp only [List.forall_mem_singleton, Char.isDigit_iff_toNat, Char.reduceToNat,
        leads] at digits zero
      exact .inl ⟨c, rfl, digits, zero⟩
    · simp only [List.forall_mem_cons, Char.isDigit_iff_toNat, Char.reduceToNat,
        leads] at digits zero
      exact .inr (.inl ⟨c, d, rfl, digits.1, digits.2.1, zero⟩)
    · simp only [List.forall_mem_cons, Char.isDigit_iff_toNat, Char.reduceToNat, leads,
        List.length_cons] at digits zero
      obtain ⟨first, second, third, -⟩ := digits
      -- a zero may only lead numbers of at most two digits
      have : c.toNat ≠ 48 := fun same => absurd (zero same) (by simp; omega)
      rw [value] at bound
      exact .inr (.inr ⟨c, d, e, rfl, by omega, second, third, by omega⟩)
    · simp only [List.length_cons] at short
      omega
  · rintro (⟨c, rfl, first, zero⟩ | ⟨c, d, rfl, first, second, zero⟩ |
      ⟨c, d, e, rfl, first, second, third, bound⟩)
    · refine ⟨by simp, by simp, by simpa [Char.isDigit_iff_toNat], ?_,
        fun same => zero ((leads _ _).1 same)⟩
      rw [least]
      omega
    · refine ⟨by simp, by simp, by simp [Char.isDigit_iff_toNat, first, second], ?_,
        fun same => zero ((leads _ _).1 same)⟩
      rw [ofDigitChars_two]
      omega
    · refine ⟨by simp, by simp, by simp [Char.isDigit_iff_toNat, second, third]; omega, ?_, ?_⟩
      · rw [value]
        omega
      · rw [leads]
        omega

theorem spansAll_maybe {body : List Node} :
    SpansAll urlFlags [.maybe body] before taken after ↔
      taken = [] ∨ SpansAll urlFlags body before taken after := by
  rw [spansAll_single, spans_maybe]

theorem accepts_zeroOne (c : Char) :
    (Single.ofSet urlFlags false (SetItem.each ['0', '1'])).accepts c.toNat = true ↔
      48 ≤ c.toNat ∧ c.toNat < '2'.toNat := by
  rw [accepts_each rfl (by decide +kernel)]
  simp only [List.mem_cons, List.not_mem_nil, or_false, ← Char.toNat_inj, Char.reduceToNat]
  omega

theorem accepts_zeroToFour (c : Char) :
    (Single.ofSet urlFlags false [.between '0' '4']).accepts c.toNat = true ↔
      48 ≤ c.toNat ∧ c.toNat < '5'.toNat := by
  rw [accepts_between (by decide)]
  simp only [Char.reduceToNat]
  omega

/-- Three digits for a number from two hundred to one that is not too great. -/
def IsLate (most : Nat) (cs : List Char) : Prop :=
  ∃ c d e, cs = [c, d, e] ∧ c.toNat = 50 ∧ (48 ≤ d.toNat ∧ d.toNat ≤ 57) ∧
    (48 ≤ e.toNat ∧ e.toNat ≤ 57) ∧ 200 + 10 * (d.toNat - 48) + (e.toNat - 48) ≤ most

/-- Below the turning tens any units follow, and at them only a few. -/
theorem spans_late {low : List SetItem} {turn last : Char} (digits : turn.isDigit = true ∧
      last.isDigit = true)
    (below : ∀ c : Char, (Single.ofSet urlFlags false low).accepts c.toNat = true ↔
      48 ≤ c.toNat ∧ c.toNat < turn.toNat) :
    SpansSome urlFlags [[.one '2', .oneOf low, digit], [.one '2', .one turn, digitBetween '0' last]]
      before taken after ↔
    IsLate (200 + 10 * (turn.toNat - 48) + (last.toNat - 48)) taken := by
  simp only [Char.isDigit_iff_toNat, Char.reduceToNat] at digits
  obtain ⟨turning, lasting⟩ := digits
  have nearTurn : turn.toNat < 0x41 := by omega
  have nearLast : last.toNat < 0x41 := by omega
  simp (disch := first | decide | assumption) only [SpansSome, digit, digitBetween, spansAll_one,
    spansAll_oneOf, below, accepts_between, spansAll_nil, or_false, Char.reduceToNat]
  constructor
  · rintro (⟨c, _, rfl, two, d, _, rfl, tens, e, _, rfl, units, rfl⟩ |
      ⟨c, _, rfl, two, d, _, rfl, tens, e, _, rfl, units, rfl⟩)
    all_goals exact ⟨c, d, e, rfl, two, by omega, by omega, by omega⟩
  · rintro ⟨c, d, e, rfl, two, tens, units, bound⟩
    have : d.toNat < turn.toNat ∨ d.toNat = turn.toNat := by omega
    rcases this with low | high
    · exact .inl ⟨c, _, rfl, two, d, _, rfl, ⟨tens.1, low⟩, e, _, rfl, units, rfl⟩
    · exact .inr ⟨c, _, rfl, two, d, _, rfl, high, e, _, rfl, by omega, rfl⟩

/-- The first and the last number begin with no zero. -/
theorem spans_numberUpTo {most : Nat} {top : List (List Node)} (low : 199 ≤ most)
    (high : most ≤ 299)
    (late : ∀ before taken after, SpansSome urlFlags top before taken after ↔ IsLate most taken) :
    (numberUpTo top).Spans urlFlags before taken after ↔ IsNumber most 0 taken := by
  rw [isNumber_iff (by omega) (by decide)]
  simp (disch := decide) only [numberUpTo, List.cons_append, List.nil_append, Node.Spans, SpansSome,
    late, digit, digitBetween, spansAll_one, spansAll_between, spansAll_maybe, spansAll_nil,
    Char.reduceToNat]
  constructor
  · rintro (⟨c, _, rfl, first, rfl | ⟨d, _, rfl, second, rfl⟩⟩ |
      ⟨c, _, rfl, one, d, _, rfl, tens, e, _, rfl, units, rfl⟩ |
      ⟨c, d, e, rfl, two, tens, units, bound⟩)
    · exact .inl ⟨c, rfl, by omega, by omega⟩
    · exact .inr (.inl ⟨c, d, rfl, by omega, second, by omega⟩)
    · exact .inr (.inr ⟨c, d, e, rfl, by omega, tens, units, by omega⟩)
    · exact .inr (.inr ⟨c, d, e, rfl, by omega, tens, units, by omega⟩)
  · rintro (⟨c, rfl, first, zero⟩ | ⟨c, d, rfl, first, second, zero⟩ |
      ⟨c, d, e, rfl, first, second, third, bound⟩)
    · exact .inl ⟨c, _, rfl, by omega, .inl rfl⟩
    · exact .inl ⟨c, _, rfl, by omega, .inr ⟨d, _, rfl, second, rfl⟩⟩
    · have : c.toNat = 49 ∨ c.toNat = 50 := by omega
      rcases this with one | two
      · exact .inr (.inl ⟨c, _, rfl, one, d, _, rfl, second, e, _, rfl, third, rfl⟩)
      · exact .inr (.inr ⟨c, d, e, rfl, two, second, third, by omega⟩)

theorem accepts_digit (c : Char) :
    (Single.ofSet urlFlags false [.between '0' '9']).accepts c.toNat = true ↔ c.isDigit = true := by
  rw [accepts_between (by decide), Char.isDigit_iff_toNat]

theorem spans_oneTwoDigits : (Node.times 1 2 [digit]).Spans urlFlags before taken after ↔
    (∃ c, taken = [c] ∧ 48 ≤ c.toNat ∧ c.toNat ≤ 57) ∨
      ∃ c d, taken = [c, d] ∧ (48 ≤ c.toNat ∧ c.toNat ≤ 57) ∧ 48 ≤ d.toNat ∧ d.toNat ≤ 57 := by
  simp only [Node.times, digit, spans_repeat_oneOf, accepts_digit, Char.isDigit_iff_toNat,
    Char.reduceToNat, Option.mem_some_iff, forall_eq']
  constructor
  · rintro ⟨least, most, digits⟩
    match taken with
    | [c] => exact .inl ⟨c, rfl, digits c (.head _)⟩
    | [c, d] =>
      obtain ⟨first, second⟩ := List.forall_mem_cons.1 digits
      exact .inr ⟨c, d, rfl, first, second d (.head _)⟩
  · rintro (⟨c, rfl, first⟩ | ⟨c, d, rfl, first, second⟩)
    · exact ⟨by simp, by simp, List.forall_mem_singleton.2 first⟩
    · exact ⟨by simp, by simp, List.forall_mem_cons.2 ⟨first, List.forall_mem_singleton.2 second⟩⟩

/-- One or two digits, and a one before them or not. -/
theorem spans_early : SpansAll urlFlags [.maybe [.one '1'], .times 1 2 [digit]] before taken after ↔
    (∃ c, taken = [c] ∧ 48 ≤ c.toNat ∧ c.toNat ≤ 57) ∨
    (∃ c d, taken = [c, d] ∧ (48 ≤ c.toNat ∧ c.toNat ≤ 57) ∧ 48 ≤ d.toNat ∧ d.toNat ≤ 57) ∨
    ∃ c d e, taken = [c, d, e] ∧ c.toNat = 49 ∧ (48 ≤ d.toNat ∧ d.toNat ≤ 57) ∧
      48 ≤ e.toNat ∧ e.toNat ≤ 57 := by
  rw [spansAll_cons]
  simp (disch := decide) only [spansAll_single, spans_maybe, spans_one, spans_oneTwoDigits]
  constructor
  · rintro ⟨_, digits, rfl, rfl | rfl, few⟩
    · exact few.imp_right .inl
    · rcases few with ⟨c, rfl, first⟩ | ⟨c, d, rfl, first, second⟩
      · exact .inr (.inl ⟨'1', c, rfl, by decide, first⟩)
      · exact .inr (.inr ⟨'1', c, d, rfl, rfl, first, second⟩)
  · rintro (one | two | ⟨c, d, e, rfl, first, second, third⟩)
    · exact ⟨[], _, rfl, .inl rfl, .inl one⟩
    · exact ⟨[], _, rfl, .inl rfl, .inr two⟩
    · obtain rfl : c = '1' := Char.toNat_inj.1 first
      exact ⟨['1'], _, rfl, .inr rfl, .inr ⟨d, e, rfl, second, third⟩⟩

/-- The ways to write a number between the first and the last. -/
abbrev middleNumber : Node :=
  .choice [[.maybe [.one '1'], .times 1 2 [digit]], [.one '2', digitBetween '0' '4', digit],
    [.one '2', .one '5', digitBetween '0' '5']]

/-- The numbers between the first and the last may begin with a zero when they have at most two
digits. -/
theorem spans_middle : middleNumber.Spans urlFlags before taken after ↔ IsNumber 255 2 taken := by
  have apart {way : List Node} {ways : List (List Node)} :
      (Node.choice (way :: ways)).Spans urlFlags before taken after ↔
        SpansAll urlFlags way before taken after ∨
          SpansSome urlFlags ways before taken after := Iff.rfl
  rw [isNumber_iff (by decide) (by decide), apart,
    digitBetween, spans_late (by decide) accepts_zeroToFour, spans_early]
  constructor
  · rintro ((⟨c, rfl, first⟩ | ⟨c, d, rfl, first, second⟩ | ⟨c, d, e, rfl, first, second, third⟩) |
      ⟨c, d, e, rfl, first, second, third, bound⟩)
    · exact .inl ⟨c, rfl, first, by omega⟩
    · exact .inr (.inl ⟨c, d, rfl, first, second, by omega⟩)
    · exact .inr (.inr ⟨c, d, e, rfl, by omega, second, third, by omega⟩)
    · simp only [Char.reduceToNat] at bound
      exact .inr (.inr ⟨c, d, e, rfl, by omega, second, third, by omega⟩)
  · rintro (⟨c, rfl, first, -⟩ | ⟨c, d, rfl, first, second, -⟩ |
      ⟨c, d, e, rfl, first, second, third, bound⟩)
    · exact .inl (.inl ⟨c, rfl, first⟩)
    · exact .inl (.inr (.inl ⟨c, d, rfl, first, second⟩))
    · have : c.toNat = 49 ∨ c.toNat = 50 := by omega
      rcases this with one | two
      · exact .inl (.inr (.inr ⟨c, d, e, rfl, one, second, third⟩))
      · exact .inr ⟨c, d, e, rfl, two, second, third, by simp only [Char.reduceToNat]; omega⟩

theorem spans_twoMiddle :
    (Node.times 2 2 [.one '.', middleNumber]).Spans urlFlags before taken after ↔
    ∃ second third, taken = '.' :: (second ++ '.' :: third) ∧ IsNumber 255 2 second ∧
      IsNumber 255 2 third := by
  have one (before taken after : List Char) :
      SpansAll urlFlags [.one '.', middleNumber] before taken after ↔
        ∃ number, taken = '.' :: number ∧ IsNumber 255 2 number := by
    simp (disch := decide) only [spansAll_cons, spans_one, spans_middle, spansAll_nil]
    constructor
    · rintro ⟨_, _, rfl, rfl, number, _, rfl, formed, rfl⟩
      exact ⟨number, by simp, formed⟩
    · rintro ⟨number, rfl, formed⟩
      exact ⟨['.'], number, rfl, rfl, number, [], by simp, formed, rfl⟩
  constructor
  · rintro ⟨n, two, most, many⟩
    obtain rfl := Nat.le_antisymm (most 2 rfl) two
    obtain ⟨_, _, rfl, first, _, _, rfl, second, rfl⟩ := many
    obtain ⟨second', rfl, formed⟩ := (one _ _ _).1 first
    obtain ⟨third', rfl, formed'⟩ := (one _ _ _).1 second
    exact ⟨second', third', by simp, formed, formed'⟩
  · rintro ⟨second, third, rfl, formed, formed'⟩
    exact ⟨2, Nat.le_refl 2, fun _ given => (Option.some.inj given).le, _, _, rfl,
      (one _ _ _).2 ⟨second, rfl, formed⟩, _, [], by simp, (one _ _ _).2 ⟨third, rfl, formed'⟩, rfl⟩

theorem spans_firstNumber : (numberUpTo [[.one '2', .oneOf (SetItem.each ['0', '1']), digit],
      [.one '2', .one '2', digitBetween '0' '3']]).Spans urlFlags before taken after ↔
    IsNumber 223 0 taken :=
  spans_numberUpTo (by decide) (by decide) fun _ _ _ =>
    spans_late (by decide) accepts_zeroOne

theorem spans_lastNumber : (numberUpTo [[.one '2', digitBetween '0' '4', digit],
      [.one '2', .one '5', digitBetween '0' '4']]).Spans urlFlags before taken after ↔
    IsNumber 254 0 taken :=
  spans_numberUpTo (by decide) (by decide) fun _ _ _ =>
    spans_late (by decide) accepts_zeroToFour

theorem spans_four : SpansAll urlFlags addressParts before taken after ↔ IsFour taken := by
  simp (disch := decide) only [addressParts, spansAll_cons, spans_one, spansAll_nil,
    spans_twoMiddle, spans_firstNumber, spans_lastNumber]
  constructor
  · rintro ⟨first, _, rfl, isFirst, _, _, rfl, ⟨second, third, rfl, isSecond, isThird⟩, _, _, rfl,
      rfl, fourth, _, rfl, isFourth, rfl⟩
    exact ⟨first, second, third, fourth, by simp [List.intercalate_cons_cons], isFirst, isSecond,
      isThird, isFourth⟩
  · rintro ⟨first, second, third, fourth, rfl, isFirst, isSecond, isThird, isFourth⟩
    exact ⟨first, '.' :: (second ++ '.' :: third) ++ '.' :: fourth,
      by simp [List.intercalate_cons_cons], isFirst, _, _, rfl,
      ⟨second, third, rfl, isSecond, isThird⟩, ['.'], fourth, rfl, rfl, fourth, [], by simp,
      isFourth, rfl⟩

/-! ## Host names -/

theorem accepts_hostChar (c : Char) :
    (Single.ofSet urlFlags false [.between 'a' 'z', .range 0xA1 0xFFFF, .between '0' '9']).accepts
      c.toNat = true ↔ c.isAlphanum = true ∨ IsWide c := by
  have test : Single.ofSet urlFlags false [.between 'a' 'z', .range 0xA1 0xFFFF, .between '0' '9'] =
      .set false .full true (SetItem.spans [(0x61, 0x7A), (0xA1, 0xFFFF), (0x30, 0x39)]) := by
    decide +kernel
  rw [test, accepts_ranges (by decide +kernel) (by decide)]
  simp [Text.inRanges, IsWide, Char.isAlphanum, Char.isAlpha, Char.isUpper, Char.isLower,
    Char.isDigit, UInt32.le_iff_toNat_le]
  omega

theorem accepts_topChar (c : Char) :
    (Single.ofSet urlFlags false [.between 'a' 'z', .range 0xA1 0xFFFF]).accepts c.toNat = true ↔
      c.isAlpha = true ∨ IsWide c := by
  have test : Single.ofSet urlFlags false [.between 'a' 'z', .range 0xA1 0xFFFF] =
      .set false .full true (SetItem.spans [(0x61, 0x7A), (0xA1, 0xFFFF)]) := by
    decide +kernel
  rw [test, accepts_ranges (by decide +kernel) (by decide)]
  simp [Text.inRanges, IsWide, Char.isAlpha, Char.isUpper, Char.isLower, UInt32.le_iff_toNat_le]
  omega

/-- A letter or digit, and hyphens after it. -/
def IsRun (cs : List Char) : Prop :=
  ∃ c hyphens, cs = c :: hyphens ∧ (c.isAlphanum = true ∨ IsWide c) ∧ ∀ d ∈ hyphens, d = '-'

theorem spans_run :
    SpansAll urlFlags [hostChar, .star [.one '-']] before taken after ↔ IsRun taken := by
  rw [hostChar, spansAll_oneOf]
  simp (disch := decide) only [spansAll_single, Node.star, spans_repeat_one, accepts_hostChar]
  simp [IsRun]

theorem ne_hyphen {c : Char} (h : c.isAlphanum = true ∨ IsWide c) : c ≠ '-' := by
  rintro rfl
  revert h
  decide

theorem isName_of_runs {runs : List (List Char)} {last : List Char}
    (formed : ∀ run ∈ runs, IsRun run) (some : last ≠ [])
    (known : ∀ c ∈ last, c.isAlphanum = true ∨ IsWide c) : IsName (runs.flatten ++ last) := by
  refine ⟨by simp [some],
    List.forall_mem_append.2 ⟨?_, fun c member => .inl (known c member)⟩, ?_, ?_⟩
  · intro c member
    obtain ⟨run, given, inside⟩ := List.mem_flatten.1 member
    obtain ⟨d, hyphens, rfl, letter, others⟩ := formed run given
    rcases List.mem_cons.1 inside with rfl | hyphen
    · exact .inl letter
    · exact .inr (others c hyphen)
  · cases runs with
    | nil =>
      obtain ⟨c, rest, rfl⟩ := List.exists_cons_of_ne_nil some
      simpa using ne_hyphen (known c (.head _))
    | cons run runs =>
      obtain ⟨d, hyphens, rfl, letter, -⟩ := formed run (.head _)
      simpa using ne_hyphen letter
  · rw [List.getLast?_append_of_ne_nil _ some]
    intro same
    exact ne_hyphen (known '-' (List.mem_of_getLast? same)) rfl

/-- Read from its end, a text without a hyphen there is made of letters and digits, of runs before
them, and of hyphens before these. -/
theorem exists_runs {cs : List Char} (nonempty : cs ≠ [])
    (known : ∀ c ∈ cs, (c.isAlphanum = true ∨ IsWide c) ∨ c = '-') (ends : cs.getLast? ≠ some '-') :
    ∃ (hyphens : List Char) (runs : List (List Char)) (last : List Char),
      cs = hyphens ++ (runs.flatten ++ last) ∧ (∀ d ∈ hyphens, d = '-') ∧
        (∀ run ∈ runs, IsRun run) ∧ last ≠ [] ∧ ∀ c ∈ last, c.isAlphanum = true ∨ IsWide c := by
  induction cs with
  | nil => exact absurd rfl nonempty
  | cons c rest ih =>
    obtain ⟨first, others⟩ := List.forall_mem_cons.1 known
    cases rest with
    | nil =>
      have letter := first.resolve_right fun same => ends (same ▸ rfl)
      exact ⟨[], [], [c], rfl, by simp, by simp, by simp, by simpa using letter⟩
    | cons d more =>
      obtain ⟨hyphens, runs, last, whole, dashes, formed, some, letters⟩ :=
        ih (List.cons_ne_nil d more) others (by simpa using ends)
      rcases first with letter | rfl
      · exact ⟨[], (c :: hyphens) :: runs, last, by simp [whole], by simp,
          List.forall_mem_cons.2 ⟨⟨c, hyphens, rfl, letter, dashes⟩, formed⟩, some, letters⟩
      · exact ⟨'-' :: hyphens, runs, last, by simp [whole], List.forall_mem_cons.2 ⟨rfl, dashes⟩,
          formed, some, letters⟩

/-- A name is made of runs and, at its end, of letters and digits. -/
theorem isName_iff {cs : List Char} :
    IsName cs ↔ ∃ (runs : List (List Char)) (last : List Char), (∀ run ∈ runs, IsRun run) ∧
      last ≠ [] ∧ (∀ c ∈ last, c.isAlphanum = true ∨ IsWide c) ∧ cs = runs.flatten ++ last := by
  constructor
  · intro h
    obtain ⟨hyphens, runs, last, rfl, dashes, formed, some, letters⟩ :=
      exists_runs h.nonempty h.known h.last
    cases hyphens with
    | nil => exact ⟨runs, last, formed, some, letters, rfl⟩
    | cons d hyphens => exact absurd (congrArg _ (dashes d (.head _))) h.first
  · rintro ⟨runs, last, formed, some, known, rfl⟩
    exact isName_of_runs formed some known

theorem spans_hostRuns : SpansAll urlFlags hostRuns before taken after ↔ IsName taken := by
  rw [hostRuns, spansAll_cons, isName_iff]
  simp only [spans_star fun _ _ _ => spans_run, spansAll_single]
  simp only [Node.plus, hostChar, spans_repeat_oneOf, accepts_hostChar]
  constructor
  · rintro ⟨_, last, rfl, ⟨runs, formed, rfl⟩, some, -, known⟩
    exact ⟨runs, last, formed, List.ne_nil_of_length_pos some, known, rfl⟩
  · rintro ⟨runs, last, formed, some, known, rfl⟩
    exact ⟨_, last, rfl, ⟨runs, formed, rfl⟩, List.length_pos_of_ne_nil some, by simp, known⟩

theorem spans_top : SpansAll urlFlags [.one '.',
      .repeat 2 none .greedy [.oneOf [.between 'a' 'z', .range 0xA1 0xFFFF]], .maybe [.one '.']]
      before taken after ↔
    ∃ top dot, 2 ≤ top.length ∧ (∀ c ∈ top, c.isAlpha = true ∨ IsWide c) ∧
      (dot = [] ∨ dot = ['.']) ∧ taken = '.' :: (top ++ dot) := by
  have dots (before taken after : List Char) :
      SpansAll urlFlags [.maybe [.one '.']] before taken after ↔ taken = [] ∨ taken = ['.'] := by
    rw [spansAll_maybe, spansAll_single, spans_one (by decide)]
  rw [spansAll_cons]
  simp only [spans_one (show '.'.toNat < 0x41 by decide)]
  constructor
  · rintro ⟨_, _, rfl, rfl, top, dot, rfl, letters, isDot⟩
    rw [spans_repeat_oneOf] at letters
    simp only [accepts_topChar] at letters
    exact ⟨top, dot, letters.1, letters.2.2, (dots _ _ _).1 isDot, rfl⟩
  · rintro ⟨top, dot, two, letters, isDot, rfl⟩
    refine ⟨['.'], top ++ dot, rfl, rfl, top, dot, rfl, ?_, (dots _ _ _).2 isDot⟩
    rw [spans_repeat_oneOf]
    simp only [accepts_topChar]
    exact ⟨two, by simp, letters⟩

theorem spans_host : SpansAll urlFlags hostParts before taken after ↔ IsHost taken := by
  have parts : hostParts = hostRuns ++ ([Node.star (Node.one '.' :: hostRuns)] ++
    [Node.one '.', Node.repeat 2 none .greedy [Node.oneOf [.between 'a' 'z', .range 0xA1 0xFFFF]],
      Node.maybe [Node.one '.']]) := rfl
  rw [parts, ← List.append_assoc, spansAll_append]
  simp only [Span.andThen, spans_labels fun _ _ _ => spans_hostRuns, spans_top,
    IsHost]
  constructor
  · rintro ⟨_, _, rfl, ⟨names, some, named, rfl⟩, top, dot, two, letters, isDot, rfl⟩
    exact ⟨names, top, dot, some, named, two, letters, isDot, rfl⟩
  · rintro ⟨names, top, dot, some, named, two, letters, isDot, rfl⟩
    exact ⟨_, _, rfl, ⟨names, some, named, rfl⟩, top, dot, two, letters, isDot, rfl⟩

end

end Pattern

end RecordCheck
