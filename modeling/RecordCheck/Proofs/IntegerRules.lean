import RecordCheck.Proofs.EqualLeaves
import RecordCheck.Proofs.IntegerText

/-!
# Rules for whole numbers

The rule for whole numbers judges a number and its text alike. The rule for positive numbers also
reads the text, and text with too many digits stands for zero then: a positive number is accepted
while its text is not.

## Main definitions

* `Rule.integer`, `Rule.positiveInteger`: the two rules.

## Main statements

* `Comparison.isIntegerText_iff`: the text of whole numbers is made of signs and digits.
* `Comparison.readsPositive_iff`: the text among it that reads as a positive number.
* `Rule.comparison_apply`: what a comparison reports.
* `Rule.integer_rules`: the rules agree on numbers and their text, as far as they do, and what is
  accepted as positive.
-/
set_option autoImplicit false

namespace RecordCheck

open Reading Decimal

namespace Comparison

/-! ## Text of whole numbers -/

theorem isIntegerText_eq (cs : List Char) : isIntegerText cs =
    (!(cs.dropWhile isSign).isEmpty && (cs.dropWhile isSign).all isAsciiDigit) := rfl

/-- The text of whole numbers is made of any signs and at least one digit. -/
theorem isIntegerText_iff {cs : List Char} : isIntegerText cs = true ↔
    ∃ signs ds, cs = signs ++ ds ∧ (∀ c ∈ signs, isSign c = true) ∧
      (∀ d ∈ ds, isAsciiDigit d = true) ∧ ds ≠ [] := by
  constructor
  · intro passed
    simp only [isIntegerText_eq, Bool.and_eq_true, Bool.not_eq_true', List.isEmpty_eq_false_iff,
      List.all_eq_true] at passed
    exact ⟨cs.takeWhile isSign, cs.dropWhile isSign, List.takeWhile_append_dropWhile.symm,
      fun c member => List.mem_takeWhile_imp member, passed.2, passed.1⟩
  · rintro ⟨signs, ds, rfl, signed, digits, given⟩
    have noSign : ∀ d ∈ ds, ¬ isSign d = true := fun d member signed => by
      simpa [isAsciiDigit_of_isSign signed] using digits d member
    have behind : ds.dropWhile isSign = ds := List.dropWhile_eq_self_iff.2 fun some =>
      noSign _ (List.getElem_mem some)
    simpa [isIntegerText_eq, List.dropWhile_append_of_pos signed, behind, given] using digits

/-- What has one sign or none is read, unless it has too many digits. What has more signs is not. -/
theorem readsPositive_iff {signs ds : List Char} (signed : ∀ c ∈ signs, isSign c = true)
    (digits : ∀ d ∈ ds, isAsciiDigit d = true) (given : ds ≠ []) :
    0 < (readInteger? (signs ++ ds)).getD 0 ↔
      (signs = [] ∨ signs = ['+']) ∧ (∃ d ∈ ds, d ≠ '0') ∧ ds.length ≤ integerDigitLimit := by
  have positive : 0 < ofDigitText ds ↔ ∃ d ∈ ds, d ≠ '0' := by
    simpa [Nat.pos_iff_ne_zero] using (ofDigitText_eq_zero_iff digits).not
  match signs with
  | [] =>
    rw [List.nil_append, readInteger?_of_split digits (split_digits digits) given, ← positive]
    split <;> simp_all
  | [c] =>
    rw [List.singleton_append,
      readInteger?_of_split digits (split_sign digits (signed c (by simp))) given, ← positive]
    rcases isSign_iff.1 (signed c (by simp)) with rfl | rfl <;> split <;> simp_all
  | c :: c' :: signs =>
    rw [readInteger?_signs digits signed]
    simp

theorem isInteger_integerText (n : Int) : isInteger (.str (integerText n)) = true := by
  refine isIntegerText_iff.2 ⟨_, _, toList_integerText n, ?_, digitText_digits _, digitText_ne_nil _⟩
  split <;> simp [isSign]

theorem integerOf_integerText (n : Int) : integerOf (.str (integerText n)) =
    if (digitText n.natAbs).length ≤ integerDigitLimit then n else 0 := by
  rw [integerOf, readInteger?_integerText]
  split <;> rfl

/-- Whether a value is a positive number or stands for one. -/
def isPositive (v : Value) : Bool := isInteger v && decide (0 < integerOf v)

theorem isPositive_int (n : Int) : isPositive (.int n) = decide (0 < n) := rfl

theorem isPositive_str {s : String} : isPositive (.str s) = true ↔
    isIntegerText s.toList = true ∧ 0 < (readInteger? s.toList).getD 0 := by
  rw [isPositive, Bool.and_eq_true, decide_eq_true_eq]
  rfl

theorem isPositive_integerText (n : Int) : isPositive (.str (integerText n)) = decide
    (0 < n ∧ (digitText n.natAbs).length ≤ integerDigitLimit) := by
  rw [isPositive, isInteger_integerText, integerOf_integerText]
  split <;> simp_all

/-- Positive are the positive numbers, and text with digits behind at most one plus sign, unless
there are only zeros or too many digits. -/
theorem isPositive_iff {v : Value} : isPositive v = true ↔
    (∃ n, 0 < n ∧ v = .int n) ∨
    ∃ sign ds, v = .str (String.ofList (sign ++ ds)) ∧ (sign = [] ∨ sign = ['+']) ∧
      (∀ d ∈ ds, isAsciiDigit d = true) ∧ (∃ d ∈ ds, d ≠ '0') ∧ ds.length ≤ integerDigitLimit := by
  constructor
  · intro positive
    cases v with
    | int n => exact .inl ⟨n, of_decide_eq_true positive, rfl⟩
    | str s =>
      obtain ⟨isText, above⟩ := isPositive_str.1 positive
      obtain ⟨signs, ds, split, signed, digits, given⟩ := isIntegerText_iff.1 isText
      rw [split, readsPositive_iff signed digits given] at above
      exact .inr ⟨signs, ds, by rw [← split, String.ofList_toList], above.1, digits, above.2⟩
    | _ => contradiction
  · rintro (⟨n, above, rfl⟩ | ⟨sign, ds, rfl, one, digits, nonzero, few⟩)
    · exact decide_eq_true above
    · have signed : ∀ c ∈ sign, isSign c = true := by rcases one with rfl | rfl <;> simp [isSign]
      have given : ds ≠ [] := List.ne_nil_of_mem nonzero.choose_spec.1
      rw [isPositive_str, String.toList_ofList]
      exact ⟨isIntegerText_iff.2 ⟨sign, ds, rfl, signed, digits, given⟩,
        (readsPositive_iff signed digits given).2 ⟨one, nonzero, few⟩⟩

end Comparison

/-! ## Reports of comparisons -/

namespace Rule

open Comparison

/-- A comparison reports what it judges, unless its operand is a stream. -/
theorem comparison_apply {c : Comparison} (plain : ∀ m xs, c.operand ≠ .stream m xs)
    {v record : Value} {code : Option String} (judged : c.judge v record = .ok code) :
    (Rule.comparison c).apply v record = pure (reportOf code) := by
  rw [Rule.apply, apply_of_notStream plain, judged]
  rfl

/-- Reports tell which code they are of. -/
theorem pure_reportOf_inj {code code' : Option String} :
    (pure (reportOf code) : Act _) = pure (reportOf code') ↔ code = code' := by
  refine ⟨fun same => ?_, fun same => by rw [same]⟩
  have same : reportOf code = reportOf code' := Except.ok.inj (congrArg Prod.fst (congrFun same {}))
  cases code <;> cases code' <;> simp_all [reportOf, Report.ofCode]

theorem codeUnless_inj {passed passed' : Bool} {code : String} :
    codeUnless passed code = codeUnless passed' code ↔ passed = passed' := by
  cases passed <;> cases passed' <;> simp [codeUnless]

/-! ## Rules for whole numbers -/

/-- The rule for whole numbers. -/
def integer : Rule := .comparison { operator := .integer }

/-- The rule for positive whole numbers. -/
def positiveInteger : Rule := .comparison { operator := .positiveInteger }

section Scalar

variable {v : Value} (scalar : v.isScalar = true) (record : Value)
include scalar

theorem integer_apply :
    integer.apply v record = pure (reportOf (codeUnless (isInteger v) Code.notInteger)) :=
  comparison_apply (by simp) (if_pos scalar)

theorem positiveInteger_apply : positiveInteger.apply v record =
    pure (reportOf (codeUnless (isPositive v) Code.notPositiveInteger)) :=
  comparison_apply (by simp) (if_pos scalar)

end Scalar

theorem positiveInteger_accepts_iff (v record : Value) :
    positiveInteger.apply v record = pure none ↔ isPositive v = true := by
  have passed : codeUnless true Code.notPositiveInteger = none := rfl
  change _ = pure (reportOf none) ↔ _
  by_cases scalar : v.isScalar = true
  · rw [positiveInteger_apply scalar, pure_reportOf_inj, ← passed, codeUnless_inj]
  · have refused : positiveInteger.apply v record = pure (reportOf (some Code.formatError)) :=
      comparison_apply (by simp) (if_neg scalar)
    have notPositive : isPositive v = false := by
      cases v <;> first | rfl | exact absurd rfl scalar
    rw [refused, pure_reportOf_inj, notPositive]
    simp

/-- A number and its text are judged alike by the rule for whole numbers. They are judged alike by
the rule for positive numbers just if the number is not positive or its text has not too many
digits. What is accepted as positive are the positive numbers, and ASCII digits behind at most one
plus sign, not all zero and not too many. -/
theorem integer_rules (n : Int) (v record : Value) :
    integer.apply (.str (integerText n)) record = integer.apply (.int n) record ∧
    (positiveInteger.apply (.str (integerText n)) record = positiveInteger.apply (.int n) record ↔
      n ≤ 0 ∨ (digitText n.natAbs).length ≤ integerDigitLimit) ∧
    (positiveInteger.apply v record = pure none ↔
      (∃ n, 0 < n ∧ v = .int n) ∨
      ∃ sign ds, v = .str (String.ofList (sign ++ ds)) ∧ (sign = [] ∨ sign = ['+']) ∧
        (∀ d ∈ ds, isAsciiDigit d = true) ∧ (∃ d ∈ ds, d ≠ '0') ∧
        ds.length ≤ integerDigitLimit) := by
  refine ⟨?_, ?_, ?_⟩
  · rw [integer_apply rfl, integer_apply rfl, isInteger_integerText]
    rfl
  · rw [positiveInteger_apply rfl, positiveInteger_apply rfl, pure_reportOf_inj, codeUnless_inj,
      isPositive_integerText, isPositive_int, decide_eq_decide]
    omega
  · rw [positiveInteger_accepts_iff, isPositive_iff]

/-- A power of ten with too many digits is accepted, and its text is not. -/
theorem positiveInteger_pow {k : Nat} (many : integerDigitLimit ≤ k) (record : Value) :
    integerText (Nat.pow 10 k : Nat) = String.ofList ('1' :: List.replicate k '0') ∧
    positiveInteger.apply (.int (Nat.pow 10 k : Nat)) record = pure none ∧
    positiveInteger.apply (.str (integerText (Nat.pow 10 k : Nat))) record =
      pure (some (.ofCode (.str Code.notPositiveInteger))) := by
  have above : isPositive (.int (Nat.pow 10 k : Nat)) = true :=
    decide_eq_true (Int.natCast_pos.2 (Nat.pow_pos (by decide)))
  have tooLong : isPositive (.str (integerText (Nat.pow 10 k : Nat))) = false := by
    rw [isPositive_integerText, Int.natAbs_natCast, digitText_pow, List.length_cons,
      List.length_replicate]
    exact decide_eq_false fun few => absurd few.2 (by omega)
  refine ⟨integerText_pow k, (positiveInteger_accepts_iff _ _).2 above, ?_⟩
  rw [positiveInteger_apply rfl, tooLong]
  rfl

theorem positiveInteger_power_of_ten :
    integerText (Nat.pow 10 4300 : Nat) = String.ofList ('1' :: List.replicate 4300 '0') ∧
    positiveInteger.apply (.int (Nat.pow 10 4300 : Nat)) .null = pure none ∧
    positiveInteger.apply (.str (integerText (Nat.pow 10 4300 : Nat))) .null =
      pure (some (.ofCode (.str Code.notPositiveInteger))) := by
  -- with the exponent hidden, the power is not evaluated
  generalize same : 4300 = k
  have many : integerDigitLimit ≤ k := by rw [← same]; decide
  exact positiveInteger_pow many .null

end Rule

end RecordCheck
