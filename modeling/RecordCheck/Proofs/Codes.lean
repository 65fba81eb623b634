import RecordCheck.Proofs.Fit

/-!
# Codes of built-in rules

Rules without others inside report one of a fixed list of codes, whatever they were put together
from.

## Main definitions

* `Code.all`: the codes.
* `Coded`: a test that reports nothing else.

## Main statements

* `BlankTest.apply_coded`, `Comparison.apply_coded`, `Length.apply_coded`, `ShapeTest.apply_coded`,
  `zoneCode?_coded`.
-/
set_option autoImplicit false

namespace RecordCheck

open Act

/-- The codes that built-in rules report. -/
def Code.all : List String :=
  [formatError, required, cannotBeEmpty, notAllowedValue, tooHigh, tooLow, notInteger,
    notPositiveInteger, notDecimal, notPositiveDecimal, fieldsNotEqual, tooLong, tooShort,
    wrongFormat, wrongUrl, wrongEmail, wrongDate, wrongTimezone]

/-- A code, if there is one, is among those of built-in rules. -/
def Code.Known (code : Option String) : Prop := ∀ c ∈ code, c ∈ all

/-- A test that reports known codes only. -/
def Coded (test : Except Error (Option String)) : Prop := ∀ code, test = .ok code → Code.Known code

namespace Code

theorem known_none : Known none := nofun

theorem known_some {c : String} (h : c ∈ all) : Known (some c) := by
  rintro _ ⟨⟩
  exact h

theorem known_ite {condition : Prop} [Decidable condition] {a b : Option String} (first : Known a)
    (second : Known b) : Known (if condition then a else b) := by
  split
  · exact first
  · exact second

end Code

namespace Coded

theorem ok {code : Option String} (h : Code.Known code) : Coded (.ok code) := by
  rintro _ ⟨⟩
  exact h

theorem error (e : Error) : Coded (.error e) := nofun

theorem bind {α : Type} {first : Except Error α} {next : α → Except Error (Option String)}
    (h : ∀ x, Coded (next x)) : Coded (first >>= next) := by
  cases first with
  | ok x => exact h x
  | error e => exact error e

theorem map {α : Type} {first : Except Error α} {f : α → Option String}
    (h : ∀ x, Code.Known (f x)) : Coded (first.map f) := by
  cases first with
  | ok x => exact ok (h x)
  | error e => exact error e

/-- The first of two tests that reports a code. -/
theorem orElse {first second : Except Error (Option String)} (h : Coded first) (h' : Coded second) :
    Coded (do
      match ← first with
      | some code => return some code
      | none => second) := by
  cases first with
  | error e => exact error e
  | ok code =>
    cases code with
    | none => exact h'
    | some c => exact ok (h _ rfl)

theorem yields {test : Except Error (Option String)} (h : Coded test) :
    Yields (liftM test : Act (Option String)) Code.Known :=
  .lift h fun _ _ => trivial

end Coded

open Code

namespace BlankTest

theorem listCode?_known (v : Value) : Known (listCode? v) := by
  unfold listCode?
  split
  · exact known_some (by decide)
  split
  · split <;> exact known_some (by decide)
  split
  · exact known_some (by decide)
  · exact known_some (by decide)
  · exact known_none

theorem apply_coded (test : BlankTest) (v : Value) : Coded (test.apply v) := by
  cases test with
  | required | notEmpty => exact .ok (known_ite (known_some (by decide)) known_none)
  | notEmptyList => exact .ok (listCode?_known v)
  | unknown operator => exact .bind fun _ => .error _

end BlankTest

theorem ShapeTest.apply_coded (test : ShapeTest) (v : Value) : Coded (test.apply v) := by
  cases test with
  | scalar | named => exact .ok (known_ite known_none (known_some (by decide)))
  | unknown operator => exact .bind fun _ => .error _

theorem zoneCode?_known (zones : List Value) (v : Value) : Known (zoneCode? zones v) :=
  known_ite (known_some (by decide)) (known_ite known_none (known_some (by decide)))

namespace Comparison

theorem codeUnless_known (passed : Bool) {code : String} (h : code ∈ Code.all) :
    Known (codeUnless passed code) := known_ite known_none (known_some h)

theorem above_coded (high : Value) (n : Number) : Coded (above high n) :=
  .bind fun _ => .ok (known_ite (known_some (by decide)) known_none)

theorem below_coded (low : Value) (n : Number) : Coded (below low n) :=
  .bind fun _ => .ok (known_ite (known_some (by decide)) known_none)

theorem outside_coded (operand : Value) (n : Number) : Coded (outside operand n) :=
  .bind fun (low, high) => .orElse (above_coded high n) (below_coded low n)

theorem onNumber_coded {test : Number → Except Error (Option String)} (h : ∀ n, Coded (test n))
    (v : Value) : Coded (onNumber v test) := by
  unfold onNumber
  split
  · exact h _
  · exact .ok (known_some (by decide))

theorem againstField_coded (field v record : Value) : Coded (againstField field v record) := by
  unfold againstField
  dsimp only
  split
  · exact .error _
  · exact .ok (known_ite known_none (known_some (by decide)))

theorem onScalar_coded (c : Comparison) (v record : Value) : Coded (c.onScalar v record) := by
  unfold onScalar
  split
  · exact .map fun _ => codeUnless_known _ (by decide)
  · exact .ok (codeUnless_known _ (by decide))
  · exact onNumber_coded (above_coded _) v
  · exact onNumber_coded (below_coded _) v
  · exact onNumber_coded (outside_coded _) v
  iterate 4 exact .ok (codeUnless_known _ (by decide))
  · exact againstField_coded _ v record
  · exact .bind fun _ => .error _

theorem judge_coded (c : Comparison) (v record : Value) : Coded (c.judge v record) := by
  unfold judge
  split
  · exact onScalar_coded c v record
  split
  · exact againstField_coded _ _ record
  · exact .ok (known_some (by decide))

/-- What the operand's stream has left changes the answer, but not the codes. -/
theorem apply_coded (c : Comparison) (v record : Value) : Yields (c.apply v record) Known := by
  unfold apply
  split
  · refine (yields_any _).bind fun left _ => (yields_any _).bind fun _ _ => ?_
    exact (judge_coded _ v record).yields
  · refine (yields_any _).bind fun left _ => (yields_any _).bind fun _ _ => ?_
    exact (judge_coded _ v record).yields
  · exact (judge_coded c v record).yields

end Comparison

namespace Length

theorem above_coded (high : Value) (length : Nat) : Coded (above high length) :=
  .bind fun _ => .ok (known_ite (known_some (by decide)) known_none)

theorem below_coded (low : Value) (length : Nat) : Coded (below low length) :=
  .bind fun _ => .ok (known_ite (known_some (by decide)) known_none)

theorem outside_coded (low high : Value) (length : Nat) : Coded (outside low high length) :=
  .orElse (above_coded high length) (below_coded low length)

theorem onLength_coded (l : Length) (length : Nat) : Coded (l.onLength length) := by
  unfold onLength
  split
  · exact above_coded _ length
  · exact below_coded _ length
  · exact outside_coded _ _ length
  · exact .bind fun (low, high) => outside_coded low high length
  · exact .bind fun _ => .error _

theorem judge_coded (l : Length) (v : Value) : Coded (l.judge v) := by
  refine .bind fun length => ?_
  split
  · exact onLength_coded l _
  · exact .ok (known_some (by decide))

/-- What the bounds' stream has left changes the answer, but not the codes. -/
theorem apply_coded (l : Length) (v : Value) : Yields (l.apply v) Known := by
  unfold apply
  split
  · refine (yields_any _).bind fun left _ => (yields_any _).bind fun _ _ => ?_
    exact (judge_coded _ v).yields
  · exact (judge_coded l v).yields

end Length

end RecordCheck
