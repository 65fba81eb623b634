import Mathlib.Data.List.TakeWhile
import RecordCheck.Number.Reading

/-!
# Whole numbers as text

The text of a whole number is made of ASCII digits behind at most one sign. Such text is left as it
is before it is read, so what it reads as follows from its sign and its digits: the number itself,
as long as there are not too many digits, and the double next to it.

## Main definitions

* `integerText`: the decimal text of a whole number of any size.
* `Binary64.ofInt`: the double next to a whole number.

## Main statements

* `Reading.readInteger?_of_split`, `Reading.readFloat?_of_split`: digits behind at most one sign.
* `Reading.readInteger?_signs`: digits behind several signs.
* `readInteger?_integerText`, `readFloat?_integerText`: the text of a whole number, as such and as a
  double.
-/
set_option autoImplicit false

namespace RecordCheck

/-- The decimal text of a whole number, however many digits it has. -/
def integerText (n : Int) : String :=
  let digits := Decimal.digitText n.natAbs
  String.ofList (if n < 0 then '-' :: digits else digits)

/-- The double next to a whole number. -/
def Binary64.ofInt (n : Int) : Binary64 := nearest (n < 0) n.natAbs 1

namespace Reading

/-! ## Digits and signs -/

theorem asciiDigit?_eq (c : Char) :
    Text.asciiDigit? c = if c.isDigit then some (c.toNat - 48) else none := rfl

theorem isAsciiDigit_eq (c : Char) : isAsciiDigit c = c.isDigit := by
  rw [isAsciiDigit, asciiDigit?_eq]
  cases c.isDigit <;> rfl

theorem asciiDigit?_of_digit {c : Char} (digit : isAsciiDigit c = true) :
    Text.asciiDigit? c = some (c.toNat - 48) := by
  rw [asciiDigit?_eq, if_pos (isAsciiDigit_eq c ▸ digit)]

/-- There are ten digits. -/
theorem exists_digitChar {c : Char} (digit : isAsciiDigit c = true) :
    ∃ d < 10, c = Nat.digitChar d := by
  rw [isAsciiDigit_eq, Char.isDigit_iff_toNat] at digit
  have range : 48 ≤ c.toNat ∧ c.toNat ≤ 57 := digit
  refine ⟨c.toNat - 48, by omega, Char.toNat_inj.1 ?_⟩
  rw [Nat.toNat_digitChar_of_lt_ten (by omega)]
  omega

def isSign (c : Char) : Bool := c == '-' || c == '+'

theorem isSign_iff {c : Char} : isSign c = true ↔ c = '-' ∨ c = '+' := by
  simp [isSign]

theorem isAsciiDigit_of_isSign {c : Char} (signed : isSign c = true) : isAsciiDigit c = false := by
  rcases isSign_iff.1 signed with rfl | rfl <;> rfl

/-- Signs and digits are no blanks, and stay what they are when digits of other scripts are made
ASCII digits. -/
theorem kept_of_plain {c : Char} (plain : isSign c = true ∨ isAsciiDigit c = true) :
    Text.isNumberBlank c.toNat = false ∧ plainDigit c = c := by
  rcases plain with signed | digit
  · rcases isSign_iff.1 signed with rfl | rfl <;> decide
  · obtain ⟨d, small, rfl⟩ := exists_digitChar digit
    decide +revert

theorem trim_of_kept {drop : Nat → Bool} {cs : List Char}
    (kept : ∀ c ∈ cs, drop c.toNat = false) : Text.trim drop cs = cs := by
  have whole (ds : List Char) (kept : ∀ d ∈ ds, drop d.toNat = false) :
      ds.dropWhile (fun d => drop d.toNat) = ds := by
    cases ds with
    | nil => rfl
    | cons d ds => rw [List.dropWhile_cons_of_neg (by simp [kept d])]
  rw [Text.trim, whole cs kept, whole _ (by simpa using kept), List.reverse_reverse]

theorem prepare_of_kept {cs : List Char}
    (kept : ∀ c ∈ cs, Text.isNumberBlank c.toNat = false ∧ plainDigit c = c) :
    prepare cs = cs := by
  rw [prepare, trim_of_kept fun c member => (kept c member).1]
  calc cs.map plainDigit
      = cs.map id := List.map_congr_left fun c member => (kept c member).2
    _ = cs := List.map_id cs

/-- What begins with a digit has no sign to split off. -/
theorem sign_of_digit {c : Char} (digit : isAsciiDigit c = true) (cs : List Char) :
    sign (c :: cs) = (false, c :: cs) := by
  unfold sign
  split
  · next same =>
    cases same
    cases digit
  · next same =>
    cases same
    cases digit
  · rfl

theorem dropBreaks?_of_ne {cs : List Char} (unbroken : ∀ c ∈ cs, c ≠ '_') :
    dropBreaks? cs = some cs := by
  fun_induction dropBreaks? cs with
  | case1 => rfl
  | case2 | case3 => exact absurd rfl (unbroken '_' (by simp))
  | case4 c cs _ isBreak => exact absurd (beq_iff_eq.1 isBreak) (unbroken c (by simp))
  | case5 c cs _ _ ih => rw [ih fun d member => unbroken d (by simp [member])]; rfl

/-- What begins with a digit is no word. -/
theorem sameWord_of_digit {c : Char} (digit : isAsciiDigit c = true) (cs : List Char)
    {word : String} {first : Char} {rest : List Char} (spelt : word.toList = first :: rest)
    (letter : 58 ≤ Text.asciiLower first.toNat) : sameWord (c :: cs) word = false := by
  obtain ⟨n, small, rfl⟩ := exists_digitChar digit
  have lower : ∀ n < 10, Text.asciiLower (Nat.digitChar n).toNat < 58 := by decide
  have differ : Text.asciiLower (Nat.digitChar n).toNat ≠ Text.asciiLower first.toNat :=
    ((lower n small).trans_le letter).ne
  simp [sameWord, spelt, differ]

/-- What begins with a digit is read as a decimal. -/
theorem readFloat?_of_digit {cs ds : List Char} {c : Char} {negative : Bool} {d : Decimal}
    (split : sign (prepare cs) = (negative, c :: ds)) (digit : isAsciiDigit c = true)
    (unbroken : ∀ e ∈ c :: ds, e ≠ '_') (read : decimal? (c :: ds) = some d) :
    readFloat? cs = some (.ofDecimal negative d.digits d.exponent) := by
  have noWord : sameWord (c :: ds) "inf" = false ∧ sameWord (c :: ds) "infinity" = false ∧
      sameWord (c :: ds) "nan" = false :=
    ⟨sameWord_of_digit digit ds rfl (by decide), sameWord_of_digit digit ds rfl (by decide),
      sameWord_of_digit digit ds rfl (by decide)⟩
  simp [readFloat?, split, noWord, dropBreaks?_of_ne unbroken, read]

theorem sign_cons {c : Char} (signed : isSign c = true) (cs : List Char) :
    sign (c :: cs) = (c == '-', cs) := by
  rcases isSign_iff.1 signed with rfl | rfl <;> rfl

/-! ## Runs of digits -/

section Digits

variable {ds : List Char} (digits : ∀ d ∈ ds, isAsciiDigit d = true)
include digits

theorem prepare_append {signs : List Char} (signed : ∀ c ∈ signs, isSign c = true) :
    prepare (signs ++ ds) = signs ++ ds :=
  prepare_of_kept fun c member =>
    kept_of_plain ((List.mem_append.1 member).imp (signed c) (digits c))

theorem sign_digits : sign ds = (false, ds) := by
  cases ds with
  | nil => rfl
  | cons d ds => exact sign_of_digit (digits d (by simp)) ds

theorem digitRun?_digits (given : ds ≠ []) :
    digitRun? ds = some (ds.filterMap Text.asciiDigit?) := by
  fun_induction digitRun? ds with
  | case1 => exact absurd rfl given
  | case2 c => simp [asciiDigit?_of_digit (digits c (by simp))]
  | case3 | case4 => cases digits '_' (by simp)
  | case5 c cs more _ d run read own ih =>
    have rest := ih (fun e member => digits e (by simp [member])) more
    rw [read] at rest
    obtain rfl := Option.some.inj rest
    simp [own]
  | case6 c cs more _ fails ih =>
    have rest := ih (fun e member => digits e (by simp [member])) more
    exact (fails _ _ (asciiDigit?_of_digit (digits c (by simp))) rest).elim

theorem decimal?_digits (given : ds ≠ []) : decimal? ds = some ⟨ofDigitText ds, 0⟩ := by
  have all : ds.takeWhile isAsciiDigit = ds := List.takeWhile_eq_self_iff.2 digits
  have none : ds.dropWhile isAsciiDigit = [] := List.dropWhile_eq_nil_iff.2 digits
  simp [decimal?, all, none, given, exponent?]

/-! ## The value of digits -/

theorem length_digits : (ds.filterMap Text.asciiDigit?).length = ds.length := by
  induction ds with
  | nil => rfl
  | cons d ds ih =>
    rw [List.filterMap_cons_some (asciiDigit?_of_digit (digits d (by simp))), List.length_cons,
      List.length_cons, ih fun e member => digits e (by simp [member])]

theorem ofDigitText_eq : ofDigitText ds = Nat.ofDigitChars 10 ds 0 := by
  have fold (n : Nat) : (ds.filterMap Text.asciiDigit?).foldl (fun n d => 10 * n + d) n =
      Nat.ofDigitChars 10 ds n := by
    induction ds generalizing n with
    | nil => rfl
    | cons d ds ih =>
      rw [List.filterMap_cons_some (asciiDigit?_of_digit (digits d (by simp))), List.foldl_cons,
        ih fun e member => digits e (by simp [member])]
      rfl
  exact fold 0

/-- Digits stand for zero only if all of them do. -/
theorem ofDigitText_eq_zero_iff : ofDigitText ds = 0 ↔ ∀ d ∈ ds, d = '0' := by
  have fold (n : Nat) : (ds.filterMap Text.asciiDigit?).foldl (fun n d => 10 * n + d) n = 0 ↔
      n = 0 ∧ ∀ d ∈ ds, d = '0' := by
    induction ds generalizing n with
    | nil => simp
    | cons d ds ih =>
      obtain ⟨m, small, rfl⟩ := exists_digitChar (digits d (by simp))
      have zero : ∀ m < 10, (Nat.digitChar m = '0' ↔ m = 0) := by decide
      have both : 10 * n + (48 + m - 48) = 0 ↔ n = 0 ∧ m = 0 := by omega
      rw [List.filterMap_cons_some (asciiDigit?_of_digit (digits _ (by simp))), List.foldl_cons,
        ih fun e member => digits e (by simp [member]), List.forall_mem_cons, zero m small,
        Nat.toNat_digitChar_of_lt_ten small, both, and_assoc]
  simpa [ofDigitText, ofDigits] using fold 0

/-! ## Reading -/

section Split

variable {cs : List Char} {negative : Bool} (split : sign (prepare cs) = (negative, ds))
include split

/-- Digits behind at most one sign are a whole number. -/
theorem readInteger?_of_split (given : ds ≠ []) : readInteger? cs =
    if ds.length ≤ integerDigitLimit then
      some (if negative then -(ofDigitText ds : Int) else ofDigitText ds)
    else none := by
  simp only [readInteger?, split, digitRun?_digits digits given, length_digits digits]
  rfl

/-- Digits behind at most one sign are a double. -/
theorem readFloat?_of_split (given : ds ≠ []) :
    readFloat? cs = some (.ofDecimal negative (ofDigitText ds) 0) := by
  have read := decimal?_digits digits given
  have unbroken : ∀ d ∈ ds, d ≠ '_' := fun d member same => by
    subst same
    cases digits '_' member
  cases ds with
  | nil => exact absurd rfl given
  | cons d ds => exact readFloat?_of_digit split (digits d (by simp)) unbroken read

end Split

theorem split_digits : sign (prepare ds) = (false, ds) := by
  have ready : prepare ds = ds := @prepare_append ds digits [] (by simp)
  rw [ready, sign_digits digits]

theorem split_sign {c : Char} (signed : isSign c = true) :
    sign (prepare (c :: ds)) = (c == '-', ds) := by
  have ready : prepare (c :: ds) = c :: ds := @prepare_append ds digits [c] (by simpa)
  rw [ready, sign_cons signed]

/-- A second sign is no digit. -/
theorem readInteger?_signs {c c' : Char} {signs : List Char}
    (signed : ∀ s ∈ c :: c' :: signs, isSign s = true) :
    readInteger? (c :: c' :: signs ++ ds) = none := by
  have split : sign (prepare (c :: c' :: signs ++ ds)) = (c == '-', c' :: signs ++ ds) := by
    rw [prepare_append digits signed, List.cons_append, sign_cons (signed c (by simp))]
  have noDigit : Text.asciiDigit? c' = none := by
    simpa [isAsciiDigit] using isAsciiDigit_of_isSign (signed c' (by simp))
  have noRun : digitRun? (c' :: signs ++ ds) = none := by
    rw [List.cons_append]
    unfold digitRun?
    split <;> simp_all
  simp only [readInteger?, split, noRun]

end Digits

end Reading

/-! ## The text of a whole number -/

namespace Decimal

theorem digitText_digits (n : Nat) : ∀ d ∈ digitText n, Reading.isAsciiDigit d = true := by
  intro d member
  rw [Reading.isAsciiDigit_eq]
  exact Nat.isDigit_of_mem_toDigits (by decide) (by decide) member

theorem digitText_ne_nil (n : Nat) : digitText n ≠ [] := Nat.toDigits_ne_nil

theorem ofDigitText_digitText (n : Nat) : Reading.ofDigitText (digitText n) = n := by
  rw [Reading.ofDigitText_eq (digitText_digits n)]
  exact Nat.ofDigitChars_toDigits (by decide) (by decide)

theorem digitText_pow (k : Nat) : digitText (Nat.pow 10 k) = '1' :: List.replicate k '0' := by
  induction k with
  | zero => rfl
  | succ k ih =>
    have shifted := Nat.toDigits_append_toDigits (b := 10) (n := Nat.pow 10 k) (d := 0)
      (by decide) (Nat.pow_pos (by decide)) (by decide)
    calc digitText (Nat.pow 10 (k + 1))
        = digitText (10 * Nat.pow 10 k + 0) := by rw [Nat.add_zero, Nat.mul_comm]; rfl
      _ = digitText (Nat.pow 10 k) ++ ['0'] := shifted.symm
      _ = '1' :: List.replicate (k + 1) '0' := by
        rw [ih, List.cons_append, List.replicate_succ']

end Decimal

open Decimal Reading

theorem Binary64.ofDecimal_whole (negative : Bool) (n : Nat) :
    ofDecimal negative n 0 = nearest negative n 1 := by
  unfold ofDecimal
  split
  · next zero =>
    subst zero
    simp [nearest, nearestUnits, ofUnits, Binary64.zero, Representable]
  · rw [if_neg (by omega), if_neg (by omega)]
    simp

theorem toList_integerText (n : Int) :
    (integerText n).toList = (if n < 0 then ['-'] else []) ++ digitText n.natAbs := by
  rw [integerText, String.toList_ofList]
  split <;> rfl

theorem split_integerText (n : Int) :
    sign (prepare (integerText n).toList) = (decide (n < 0), digitText n.natAbs) := by
  have digits := digitText_digits n.natAbs
  rw [toList_integerText]
  by_cases negative : n < 0
  · simpa [negative] using split_sign digits (c := '-') rfl
  · simpa [negative] using split_digits digits

/-- A whole number is what its text reads as, unless there are too many digits. -/
theorem readInteger?_integerText (n : Int) : readInteger? (integerText n).toList =
    if (digitText n.natAbs).length ≤ integerDigitLimit then some n else none := by
  have own : (if n < 0 then -(n.natAbs : Int) else n.natAbs) = n := by omega
  rw [readInteger?_of_split (digitText_digits _) (split_integerText n) (digitText_ne_nil _),
    ofDigitText_digitText]
  simp only [decide_eq_true_eq, own]

theorem readFloat?_integerText (n : Int) :
    readFloat? (integerText n).toList = some (.ofInt n) := by
  rw [readFloat?_of_split (digitText_digits _) (split_integerText n) (digitText_ne_nil _),
    ofDigitText_digitText, Binary64.ofInt, ← Binary64.ofDecimal_whole]

theorem integerText_pow (k : Nat) :
    integerText (Nat.pow 10 k : Nat) = String.ofList ('1' :: List.replicate k '0') := by
  have notNegative : ¬ ((Nat.pow 10 k : Nat) : Int) < 0 := by omega
  rw [integerText, Int.natAbs_natCast, digitText_pow, if_neg notNegative]

end RecordCheck
