import Mathlib
import RecordCheck.Proofs.WholeText

/-!
# Calendar dates

The rule for dates accepts four digits, a month and a day of two digits each, with hyphens between
them. As it looks for the end of a line, it also accepts a date with a line break after it, which is
no date.

## Main definitions

* `Calendar.IsDate`: the form of a date.

## Main statements

* `Match.date_accepts_iff`: the rule accepts dates, and those with a line break after them.
* `Match.date_accepts_lineBreak`: a text that is accepted and no date.
-/
set_option autoImplicit false

namespace RecordCheck

/-! ## The form of dates -/

namespace Calendar

/-- Two digits for a number between two others. -/
structure IsPair (least most : Nat) (cs : List Char) : Prop where
  length : cs.length = 2
  digits : ∀ c ∈ cs, c.isDigit = true
  least_le : least ≤ Nat.ofDigitChars 10 cs 0
  le_most : Nat.ofDigitChars 10 cs 0 ≤ most

/-- A year of four digits, a month and a day. -/
def IsDate (cs : List Char) : Prop :=
  ∃ year month day, cs = year ++ '-' :: (month ++ '-' :: day) ∧ year.length = 4 ∧
    (∀ c ∈ year, c.isDigit = true) ∧ IsPair 1 12 month ∧ IsPair 1 31 day

theorem isPair_iff {least most : Nat} {cs : List Char} : IsPair least most cs ↔
    ∃ c d, cs = [c, d] ∧ (48 ≤ c.toNat ∧ c.toNat ≤ 57) ∧ (48 ≤ d.toNat ∧ d.toNat ≤ 57) ∧
      least ≤ 10 * (c.toNat - 48) + (d.toNat - 48) ∧
      10 * (c.toNat - 48) + (d.toNat - 48) ≤ most := by
  constructor
  · rintro ⟨length, digits, low, high⟩
    obtain ⟨c, d, rfl⟩ := List.length_eq_two.1 length
    rw [Pattern.ofDigitChars_two] at low high
    simp only [List.forall_mem_cons, Char.isDigit_iff_toNat, Char.reduceToNat] at digits
    exact ⟨c, d, rfl, digits.1, digits.2.1, low, high⟩
  · rintro ⟨c, d, rfl, first, second, low, high⟩
    rw [← Pattern.ofDigitChars_two] at low high
    refine ⟨rfl, ?_, low, high⟩
    simp [Char.isDigit_iff_toNat, first, second]

theorem IsDate.length {cs : List Char} (h : IsDate cs) : cs.length = 10 := by
  obtain ⟨year, month, day, rfl, four, -, isMonth, isDay⟩ := h
  simp [four, isMonth.length, isDay.length]

end Calendar

/-! ## The pattern -/

namespace Pattern

open Calendar

section

variable {before taken after : List Char}

theorem spans_year : (Node.kept 1 [.times 4 4 [digit]]).Spans {} before taken after ↔
    taken.length = 4 ∧ ∀ c ∈ taken, c.isDigit = true := by
  change SpansAll {} [.repeat 4 (some 4) .greedy [.oneOf [.between '0' '9']]] before taken after ↔ _
  simp only [spansAll_single, spans_repeat_oneOf, accepts_between (show '9'.toNat < 0x41 by decide),
    Char.isDigit_iff_toNat, Option.mem_some_iff, forall_eq', ← and_assoc]
  exact and_congr_left' ⟨fun h => Nat.le_antisymm h.2 h.1, fun h => ⟨h.ge, h.le⟩⟩

theorem spans_month : (Node.kept 2 [.choice [[.one '0', .oneOf [.between '1' '9']],
      [.one '1', .oneOf [.between '0' '2']]]]).Spans {} before taken after ↔ IsPair 1 12 taken := by
  change SpansAll {} [_] before taken after ↔ _
  rw [spansAll_single, isPair_iff]
  simp (disch := decide) only [Node.Spans, SpansSome, spansAll_one, spansAll_between, spansAll_nil,
    or_false, Char.reduceToNat]
  constructor
  · rintro (⟨c, _, rfl, tens, d, _, rfl, units, rfl⟩ | ⟨c, _, rfl, tens, d, _, rfl, units, rfl⟩)
    all_goals exact ⟨c, d, rfl, by omega, by omega, by omega, by omega⟩
  · rintro ⟨c, d, rfl, first, second, low, high⟩
    have tens : c.toNat = 48 ∨ c.toNat = 49 := by omega
    rcases tens with zero | ten
    · exact .inl ⟨c, _, rfl, zero, d, _, rfl, by omega, rfl⟩
    · exact .inr ⟨c, _, rfl, ten, d, _, rfl, by omega, rfl⟩

theorem spans_day : (Node.kept 3 [.choice [[.one '0', .oneOf [.between '1' '9']],
      [.oneOf [.between '1' '2'], digit], [.one '3', .oneOf [.between '0' '1']]]]).Spans {}
      before taken after ↔ IsPair 1 31 taken := by
  change SpansAll {} [_] before taken after ↔ _
  rw [spansAll_single, isPair_iff]
  simp (disch := decide) only [Node.Spans, SpansSome, digit, spansAll_one, spansAll_between,
    spansAll_nil, or_false, Char.reduceToNat]
  constructor
  · rintro (⟨c, _, rfl, tens, d, _, rfl, units, rfl⟩ | ⟨c, _, rfl, tens, d, _, rfl, units, rfl⟩ |
      ⟨c, _, rfl, tens, d, _, rfl, units, rfl⟩)
    all_goals exact ⟨c, d, rfl, by omega, by omega, by omega, by omega⟩
  · rintro ⟨c, d, rfl, first, second, low, high⟩
    have tens : c.toNat = 48 ∨ (49 ≤ c.toNat ∧ c.toNat ≤ 50) ∨ c.toNat = 51 := by omega
    rcases tens with zero | inside | thirty
    · exact .inl ⟨c, _, rfl, zero, d, _, rfl, by omega, rfl⟩
    · exact .inr (.inl ⟨c, _, rfl, inside, d, _, rfl, second, rfl⟩)
    · exact .inr (.inr ⟨c, _, rfl, thirty, d, _, rfl, by omega, rfl⟩)

/-- The parts of the pattern between its anchors. -/
def dateInner : List Node :=
  [.kept 1 [.times 4 4 [digit]], .one '-',
    .kept 2 [.choice [[.one '0', .oneOf [.between '1' '9']],
      [.one '1', .oneOf [.between '0' '2']]]],
    .one '-',
    .kept 3 [.choice [[.one '0', .oneOf [.between '1' '9']], [.oneOf [.between '1' '2'], digit],
      [.one '3', .oneOf [.between '0' '1']]]]]

theorem date_isAnchored : date.IsAnchored {} dateInner :=
  ⟨rfl, rfl, ⟨dateWidths, rfl⟩, rfl, ⟨3, rfl⟩⟩

theorem spans_dateInner : SpansAll {} dateInner before taken after ↔ IsDate taken := by
  rw [dateInner, spansAll_cons]
  simp only [spans_year]
  rw [IsDate]
  constructor
  · rintro ⟨year, _, rfl, ⟨four, digits⟩, _, _, rfl, dash, month, _, rfl, isMonth, _, day, rfl,
      dash', isDay⟩
    rw [spans_one (by decide)] at dash dash'
    subst dash dash'
    exact ⟨year, month, day, rfl, four, digits, spans_month.1 isMonth,
      spans_day.1 (spansAll_single.1 isDay)⟩
  · rintro ⟨year, month, day, rfl, four, digits, isMonth, isDay⟩
    exact ⟨year, _, rfl, ⟨four, digits⟩, ['-'], _, rfl, (spans_one (by decide)).2 rfl, month, _,
      rfl, spans_month.2 isMonth, ['-'], day, rfl, (spans_one (by decide)).2 rfl,
      spansAll_single.2 (spans_day.2 isDay)⟩

end

end Pattern

/-! ## The rule -/

namespace Match

/-- The rule for dates accepts the text of a date, and such a text with a line break after it, and
reports its code of any other text. -/
theorem date_accepts_iff (s : String) :
    (date.apply (.str s) = .ok none ↔
      Calendar.IsDate s.toList ∨ ∃ cs, Calendar.IsDate cs ∧ s.toList = cs ++ ['\n']) ∧
    (date.apply (.str s) = .ok none ∨ date.apply (.str s) = .ok (some (.str Code.wrongDate))) := by
  obtain ⟨accepted, total⟩ :=
    apply_anchored (m := date) Pattern.date_isAnchored (fun _ _ => Pattern.spans_dateInner) s
  refine ⟨accepted.trans ⟨?_, ?_⟩, total⟩
  · rintro ⟨cs, isDate, same | same⟩
    · exact .inl (same ▸ isDate)
    · exact .inr ⟨cs, isDate, same⟩
  · rintro (isDate | ⟨cs, isDate, same⟩)
    · exact ⟨_, isDate, .inl rfl⟩
    · exact ⟨cs, isDate, .inr same⟩

/-- A date with a line break after it is accepted, although it is no date. -/
theorem date_accepts_lineBreak : date.apply (.str "2024-01-31\n") = .ok none ∧
    ¬ Calendar.IsDate "2024-01-31\n".toList := by
  have isMonth : Calendar.IsPair 1 12 ['0', '1'] := Calendar.isPair_iff.2
    ⟨'0', '1', rfl, by simp, by simp, by simp, by simp⟩
  have isDay : Calendar.IsPair 1 31 ['3', '1'] := Calendar.isPair_iff.2
    ⟨'3', '1', rfl, by simp, by simp, by simp, by simp⟩
  have isDate : Calendar.IsDate "2024-01-31".toList :=
    ⟨['2', '0', '2', '4'], ['0', '1'], ['3', '1'], rfl, rfl, by simp [Char.isDigit_iff_toNat],
      isMonth, isDay⟩
  refine ⟨?_, fun isDate => absurd isDate.length (by decide)⟩
  exact (apply_anchored (m := date) Pattern.date_isAnchored (fun _ _ => Pattern.spans_dateInner)
    _).1.2 ⟨_, isDate, .inr rfl⟩

end Match

end RecordCheck
