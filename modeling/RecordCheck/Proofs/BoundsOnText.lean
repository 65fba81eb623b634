import RecordCheck.Proofs.IntegerRules

/-!
# Bounds and whole numbers as text

Rules about bounds read text as a double, the value as well as a limit, while a whole number stays
what it is. A whole number and its text therefore give the same rules, and are judged alike by
them, just if the number is a double. The text always does what the double next to the number does.

## Main definitions

* `Binary64.IsExact`: whole numbers that are doubles.
* `Comparison.Bounds`: the limits in a rule, with the code for a number.
* `Comparison.LimitPlace`: the places of a limit, and the rules that are made with one.
* `Comparison.MadeAlike`: the same error, or rules that report the same.

## Main statements

* `Binary64.isExact_iff`, `Binary64.isExact_of_le`: which whole numbers are doubles.
* `Comparison.Bounds.apply_rule`: what a rule about bounds reports.
* `Comparison.LimitPlace.make_alike`: limits with the same value make rules that report the same.
* `Comparison.bounds_on_text`: when a whole number can be replaced by its text.
-/
set_option autoImplicit false

namespace RecordCheck

/-! ## Whole numbers that are doubles -/

namespace Binary64

/-- Some double is the whole number. -/
def IsExact (n : Int) : Prop := ∃ x : Binary64, x.value = (Number.int n).value

/-- Nothing is rounded that has few enough digits. -/
theorem nearestUnits_of_representable {m : Nat} (h : Representable (m * one)) :
    nearestUnits m 1 = m * one := by
  unfold nearestUnits
  generalize m * one = units at h ⊢
  have grain : Nat.pow 2 (units.log2 - 52) ≠ 0 := (Nat.pow_pos (by decide)).ne'
  have rest : units % Nat.pow 2 (units.log2 - 52) = 0 := Nat.mod_eq_zero_of_dvd h.2
  simp only [Nat.div_one, Nat.one_mul, rest, Nat.mul_zero, Nat.not_lt_zero, decide_false,
    Bool.false_or, beq_eq_false_iff_ne.2 grain, Bool.false_and, Bool.false_eq_true, if_false]
  exact Nat.div_mul_cancel h.2

theorem ofInt_value {n : Int} (h : Representable (n.natAbs * one)) :
    (ofInt n).value = (Number.int n).value := by
  have signed : (if n < 0 then -((n.natAbs * one : Nat) : Int) else (n.natAbs * one : Nat)) =
      n * one := by
    have magnitude : n < 0 ∧ (n.natAbs : Int) = -n ∨ ¬ n < 0 ∧ (n.natAbs : Int) = n := by omega
    rcases magnitude with ⟨negative, magnitude⟩ | ⟨notNegative, magnitude⟩
    · rw [if_pos negative, Int.natCast_mul, magnitude, Int.neg_mul, Int.neg_neg]
    · rw [if_neg notNegative, Int.natCast_mul, magnitude]
  rw [ofInt, nearest, nearestUnits_of_representable h, ofUnits, dif_pos h, value, Number.value,
    ← signed]
  simp only [decide_eq_true_eq]

theorem representable_of_isExact {n : Int} (exact : IsExact n) :
    Representable (n.natAbs * one) := by
  obtain ⟨x, same⟩ := exact
  cases x with
  | finite negative units representable =>
    have places : (if negative then -(units : Int) else units) = n * one :=
      Extended.finite.inj (Option.some.inj same)
    have magnitudes : units = n.natAbs * one := by
      rw [← Int.natAbs_natCast one, ← Int.natAbs_mul, ← places]
      cases negative <;> simp
    exact magnitudes ▸ representable
  | infinite negative => cases negative <;> cases same
  | nan => cases same

/-- If any double is a whole number, then the one that is next to it. -/
theorem isExact_iff {n : Int} : IsExact n ↔ (ofInt n).value = (Number.int n).value :=
  ⟨fun exact => ofInt_value (representable_of_isExact exact), fun same => ⟨_, same⟩⟩

theorem representable_mul_pow {m k : Nat} (few : m < Nat.pow 2 53) (small : k ≤ 2044) :
    Representable (m * Nat.pow 2 k) := by
  rcases Nat.eq_zero_or_pos m with rfl | positive
  · rw [Nat.zero_mul]
    decide
  have power : 0 < Nat.pow 2 k := Nat.pow_pos (by decide)
  have bound : m * Nat.pow 2 k < Nat.pow 2 (53 + k) := by
    calc m * Nat.pow 2 k < Nat.pow 2 53 * Nat.pow 2 k := Nat.mul_lt_mul_of_pos_right few power
      _ = Nat.pow 2 (53 + k) := (Nat.pow_add 2 53 k).symm
  have log : (m * Nat.pow 2 k).log2 < 53 + k :=
    (Nat.log2_lt (Nat.mul_pos positive power).ne').2 bound
  exact ⟨by omega, Nat.dvd_mul_left_of_dvd (Nat.pow_dvd_pow 2 (by omega)) m⟩

theorem isExact_of_le {n : Int} (small : n.natAbs ≤ Nat.pow 2 53) : IsExact n := by
  obtain ⟨k, fits, unit⟩ : ∃ k, 53 + k ≤ 2044 ∧ one = Nat.pow 2 k := by
    unfold one
    exact ⟨1074, by decide, rfl⟩
  refine ⟨_, ofInt_value ?_⟩
  rw [unit]
  rcases Nat.lt_or_eq_of_le small with less | greatest
  · exact representable_mul_pow less (by omega)
  · have moved : Nat.pow 2 53 * Nat.pow 2 k = 1 * Nat.pow 2 (53 + k) := by
      rw [Nat.one_mul]
      exact (Nat.pow_add 2 53 k).symm
    rw [greatest, moved]
    exact representable_mul_pow (by decide) fits

theorem ofInt_ne_nan (n : Int) (payload : Nat) : ofInt n ≠ .nan payload := by
  rw [ofInt, nearest, ofUnits]
  split <;> simp

end Binary64

namespace Comparison

open Binary64

section NotNaN

variable {x : Binary64} (number : ∀ payload, x ≠ .nan payload)
include number

theorem numberOf?_float : numberOf? (.float x) = some (.float x) := by
  cases x with
  | nan payload => exact absurd rfl (number payload)
  | _ => rfl

theorem numberOf?_str {s : String} (read : readFloat? s.toList = some x) :
    numberOf? (.str s) = some (.float x) := by
  cases x with
  | nan payload => exact absurd rfl (number payload)
  | _ => simp only [numberOf?, read]

end NotNaN

theorem numberOf?_integerText (n : Int) :
    numberOf? (.str (integerText n)) = some (.float (.ofInt n)) :=
  numberOf?_str (ofInt_ne_nan n) (readFloat?_integerText n)

/-! ## Limits -/

/-- The limits in a rule about bounds. -/
inductive Bounds where
  | atMost (high : Number)
  | atLeast (low : Number)
  | within (low high : Number)

namespace Bounds

/-- The rule with given limits. -/
def rule : Bounds → Comparison
  | .atMost high => ⟨.atMost, .ofNumber high⟩
  | .atLeast low => ⟨.atLeast, .ofNumber low⟩
  | .within low high => ⟨.within, .tuple [.ofNumber low, .ofNumber high]⟩

/-- The code for a number that is not inside the limits. -/
def code : Bounds → Number → Option String
  | .atMost high, n => if high.lt n then some Code.tooHigh else none
  | .atLeast low, n => if n.lt low then some Code.tooLow else none
  | .within low high, n =>
    if high.lt n then some Code.tooHigh else if n.lt low then some Code.tooLow else none

/-- Two limits in the order of their size. -/
def between (m n : Number) : Bounds := if n.lt m then .within n m else .within m n

theorem boundOf_ofNumber (n : Number) : boundOf (.ofNumber n) = .ok n := by
  cases n <;> rfl

theorem above_ofNumber (high n : Number) :
    above (.ofNumber high) n = .ok (if high.lt n then some Code.tooHigh else none) := by
  rw [above, boundOf_ofNumber]
  rfl

theorem below_ofNumber (low n : Number) :
    below (.ofNumber low) n = .ok (if n.lt low then some Code.tooLow else none) := by
  rw [below, boundOf_ofNumber]
  rfl

theorem outside_ofNumber (low high n : Number) :
    outside (.tuple [.ofNumber low, .ofNumber high]) n = .ok ((within low high).code n) := by
  change (above (.ofNumber high) n >>= _) = _
  rw [above_ofNumber, code]
  by_cases tooHigh : high.lt n
  · simp only [if_pos tooHigh]
    rfl
  · simp only [if_neg tooHigh]
    exact below_ofNumber low n

/-- What is no number has the wrong format. -/
theorem judge_rule (b : Bounds) (v record : Value) :
    b.rule.judge v record = .ok ((numberOf? v).elim (some Code.formatError) b.code) := by
  have scalar (test : Number → Except Error (Option String))
      (tested : ∀ n, test n = .ok (b.code n)) :
      onNumber v test = .ok ((numberOf? v).elim (some Code.formatError) b.code) := by
    unfold onNumber
    cases numberOf? v with
    | none => rfl
    | some n => exact tested n
  by_cases isScalar : v.isScalar = true
  · cases b with
    | atMost high => exact (if_pos isScalar).trans (scalar _ fun n => above_ofNumber high n)
    | atLeast low => exact (if_pos isScalar).trans (scalar _ fun n => below_ofNumber low n)
    | within low high => exact (if_pos isScalar).trans (scalar _ fun n => outside_ofNumber low high n)
  · have noNumber : numberOf? v = none := by cases v <;> first | rfl | exact absurd rfl isScalar
    rw [noNumber]
    cases b <;> exact if_neg isScalar

/-- What a rule about bounds reports. -/
theorem apply_rule (b : Bounds) (v record : Value) : (Rule.comparison b.rule).apply v record =
    pure (reportOf ((numberOf? v).elim (some Code.formatError) b.code)) := by
  have plain (n : Number) (m : Nat) (xs : List Value) : Value.ofNumber n ≠ .stream m xs := by
    cases n <;> nofun
  refine Rule.comparison_apply ?_ (b.judge_rule v record)
  cases b with
  | atMost n | atLeast n => exact plain n
  | within => exact nofun

/-- Only the places of the limits and of the number on the number line count. -/
theorem code_congr (b : Bounds) {m n : Number} (same : m.value = n.value) :
    b.code m = b.code n := by
  cases b <;> simp only [code, Number.lt_congr same]

theorem code_between_congr {m n m' n' : Number} (first : m.value = m'.value)
    (second : n.value = n'.value) : (between m n).code = (between m' n').code := by
  have order : n.lt m = n'.lt m' := by
    rw [(Number.lt_congr second m).1, (Number.lt_congr first n').2]
  funext k
  unfold between
  rw [order]
  split <;> simp only [code, Number.lt_congr first, Number.lt_congr second]

/-- No whole number is outside of the limits that it is itself. -/
theorem code_own (n : Int) : (atMost (.int n)).code (.int n) = none ∧
    (atLeast (.int n)).code (.int n) = none := by
  have notBelow : (Number.int n).lt (.int n) = false := by
    rw [Number.int_lt_int]
    simp
  simp only [code, notBelow]
  exact ⟨rfl, rfl⟩

theorem not_lt_of_atMost {a b : Number} (passed : (atMost a).code b = none) :
    a.lt b = false := by
  simpa [code] using passed

theorem not_lt_of_atLeast {a b : Number} (passed : (atLeast a).code b = none) :
    b.lt a = false := by
  simpa [code] using passed

end Bounds

/-! ## Rules that are made with a limit -/

/-- The places of a limit in the rules about bounds. Between two limits the other one is given. -/
inductive LimitPlace where
  | most
  | least
  | first (other : Value)
  | second (other : Value)

/-- The rule with a limit at a place. -/
def LimitPlace.make : LimitPlace → Value → Except Error Comparison
  | .most, v => atMost v
  | .least, v => atLeast v
  | .first other, v => within v other
  | .second other, v => within other v

/-- Both make rules that report the same, or both fail with the same error. -/
inductive MadeAlike : Except Error Comparison → Except Error Comparison → Prop
  | made {c d : Comparison} (same : ∀ v record,
      (Rule.comparison c).apply v record = (Rule.comparison d).apply v record) :
      MadeAlike (.ok c) (.ok d)
  | failed (e : Error) : MadeAlike (.error e) (.error e)

theorem MadeAlike.apply_eq {c d : Comparison} (alike : MadeAlike (.ok c) (.ok d))
    (v record : Value) : (Rule.comparison c).apply v record = (Rule.comparison d).apply v record := by
  cases alike with
  | made same => exact same v record

theorem MadeAlike.of_codes {b b' : Bounds} (same : b.code = b'.code) :
    MadeAlike (.ok b.rule) (.ok b'.rule) :=
  .made fun v record => by rw [b.apply_rule, b'.apply_rule, same]

section Made

variable {rule : String} {v w : Value} {m n : Number} {c : Comparison}

theorem limit_of_number (own : numberOf? v = some m) : limit rule v = .ok m := by
  rw [limit, own]

theorem within_of_limits (one : limit "number_between" v = .ok m)
    (two : limit "number_between" w = .ok n) : within v w = .ok (Bounds.between m n).rule := by
  rw [within, one, two]
  simp only [bind, Except.bind, Bounds.between]
  cases n.lt m <;> rfl

theorem make_most (own : numberOf? v = some m) :
    LimitPlace.most.make v = .ok (Bounds.atMost m).rule := by
  rw [LimitPlace.make, atMost, limit_of_number own]
  rfl

theorem make_least (own : numberOf? v = some m) :
    LimitPlace.least.make v = .ok (Bounds.atLeast m).rule := by
  rw [LimitPlace.make, atLeast, limit_of_number own]
  rfl

theorem exists_of_within (made : within v w = .ok c) : ∃ b : Bounds, c = b.rule := by
  cases one : limit "number_between" v with
  | error =>
    rw [within, one] at made
    cases made
  | ok m =>
    cases two : limit "number_between" w with
    | error =>
      rw [within, one, two] at made
      cases made
    | ok n =>
      rw [within_of_limits one two] at made
      exact ⟨_, (Except.ok.inj made).symm⟩

namespace LimitPlace

variable {place : LimitPlace}

/-- Whatever the limit is given as, the rule is one about numbers. -/
theorem exists_of_make (made : place.make v = .ok c) : ∃ b : Bounds, c = b.rule := by
  cases place with
  | most =>
    obtain ⟨n, _, same⟩ := exists_of_map_ok made
    exact ⟨.atMost n, same.symm⟩
  | least =>
    obtain ⟨n, _, same⟩ := exists_of_map_ok made
    exact ⟨.atLeast n, same.symm⟩
  | first other | second other => exact exists_of_within made

/-- What a rule reports tells the code. -/
theorem code_eq_of_apply {b b' : Bounds} {record : Value} (own : numberOf? v = some m)
    (other : numberOf? w = some n) (same : (Rule.comparison b.rule).apply v record =
      (Rule.comparison b'.rule).apply w record) : b.code m = b'.code n := by
  rw [b.apply_rule, b'.apply_rule, own, other, Rule.pure_reportOf_inj] at same
  exact same

/-- What reads as the same number makes the same rule. -/
theorem make_eq (own : numberOf? v = some m) (other : numberOf? w = some m) :
    place.make v = place.make w := by
  have same (rule : String) : limit rule v = limit rule w := by
    rw [limit_of_number own, limit_of_number other]
  cases place <;> simp only [make, atMost, atLeast, within, same]

/-- Limits with the same place on the number line make rules that report the same. -/
theorem make_alike (own : numberOf? v = some m) (other : numberOf? w = some n)
    (same : m.value = n.value) (place : LimitPlace) : MadeAlike (place.make v) (place.make w) := by
  have one {rule : String} : limit rule v = .ok m := limit_of_number own
  have two {rule : String} : limit rule w = .ok n := limit_of_number other
  cases place with
  | most =>
    have codes : (Bounds.atMost m).code = (Bounds.atMost n).code := by
      funext k
      simp only [Bounds.code, Number.lt_congr same]
    rw [make_most own, make_most other]
    exact .of_codes codes
  | least =>
    have codes : (Bounds.atLeast m).code = (Bounds.atLeast n).code := by
      funext k
      simp only [Bounds.code, Number.lt_congr same]
    rw [make_least own, make_least other]
    exact .of_codes codes
  | first given =>
    cases known : limit "number_between" given with
    | ok k =>
      rw [make, make, within_of_limits one known, within_of_limits two known]
      exact .of_codes (Bounds.code_between_congr same rfl)
    | error e =>
      rw [make, make, within, within, one, two, known]
      exact .failed e
  | second given =>
    cases known : limit "number_between" given with
    | ok k =>
      rw [make, make, within_of_limits known one, within_of_limits known two]
      exact .of_codes (Bounds.code_between_congr rfl same)
    | error e =>
      rw [make, make, within, within, known]
      exact .failed e

/-- Values with the same place on the number line are judged alike. -/
theorem apply_congr {u : Value} (made : place.make u = .ok c) (own : numberOf? v = some m)
    (other : numberOf? w = some n) (same : m.value = n.value) (record : Value) :
    (Rule.comparison c).apply v record = (Rule.comparison c).apply w record := by
  obtain ⟨b, rfl⟩ := exists_of_make made
  rw [b.apply_rule, b.apply_rule, own, other, Option.elim_some, Option.elim_some,
    b.code_congr same]

end LimitPlace

end Made

/-! ## Numbers and their text -/

section Text

variable {n : Int}

/-- A double that is neither below nor above a whole number is that number. -/
theorem isExact_of_not_lt (notBelow : (Number.float (.ofInt n)).lt (.int n) = false)
    (notAbove : (Number.int n).lt (.float (.ofInt n)) = false) : IsExact n := by
  refine ⟨ofInt n, ?_⟩
  have number := ofInt_ne_nan n
  generalize ofInt n = x at *
  cases x with
  | finite negative units _ =>
    have below := of_decide_eq_false notBelow
    have above := of_decide_eq_false notAbove
    simp only [Binary64.value, Number.value]
    congr 2
    omega
  | infinite negative =>
    cases negative with
    | true => cases notBelow
    | false => cases notAbove
  | nan payload => exact absurd rfl (number payload)

/-- The rules with the number itself as their limit tell it from its text. -/
theorem isExact_of_apply (alike : ∀ (place : LimitPlace) (v : Value) (c : Comparison),
      place.make v = .ok c → ∀ record, (Rule.comparison c).apply (.str (integerText n)) record =
        (Rule.comparison c).apply (.int n) record) : IsExact n := by
  have text := numberOf?_integerText n
  have most := LimitPlace.code_eq_of_apply text rfl (alike .most (.int n) _ (make_most rfl) .null)
  have least := LimitPlace.code_eq_of_apply text rfl
    (alike .least (.int n) _ (make_least rfl) .null)
  exact isExact_of_not_lt (Bounds.not_lt_of_atLeast (least.trans (Bounds.code_own n).2))
    (Bounds.not_lt_of_atMost (most.trans (Bounds.code_own n).1))

/-- The number itself, as a value, tells the rules with its text as their limit from those with the
number. -/
theorem isExact_of_make (alike : ∀ place : LimitPlace,
      MadeAlike (place.make (.str (integerText n))) (place.make (.int n))) : IsExact n := by
  have text := numberOf?_integerText n
  have most := alike .most
  have least := alike .least
  rw [make_most text, make_most rfl] at most
  rw [make_least text, make_least rfl] at least
  have below := LimitPlace.code_eq_of_apply rfl rfl (most.apply_eq (.int n) .null)
  have above := LimitPlace.code_eq_of_apply rfl rfl (least.apply_eq (.int n) .null)
  exact isExact_of_not_lt (Bounds.not_lt_of_atMost (below.trans (Bounds.code_own n).1))
    (Bounds.not_lt_of_atLeast (above.trans (Bounds.code_own n).2))

/-- A whole number and its text are judged alike by every rule about bounds just if the number is a
double, as the numbers up to `2^53` are, and just then they make the same rules as a limit. The text
of every whole number is judged as the double next to the number, and makes the rules that this
double makes. -/
theorem bounds_on_text (n : Int) :
    (n.natAbs ≤ Nat.pow 2 53 → IsExact n) ∧
    (IsExact n ↔ ∀ (place : LimitPlace) (v : Value) (c : Comparison), place.make v = .ok c →
      ∀ record, (Rule.comparison c).apply (.str (integerText n)) record =
        (Rule.comparison c).apply (.int n) record) ∧
    (IsExact n ↔ ∀ place : LimitPlace,
      MadeAlike (place.make (.str (integerText n))) (place.make (.int n))) ∧
    (∀ (place : LimitPlace) (v : Value) (c : Comparison), place.make v = .ok c →
      ∀ record, (Rule.comparison c).apply (.str (integerText n)) record =
        (Rule.comparison c).apply (.float (.ofInt n)) record) ∧
    ∀ place : LimitPlace,
      place.make (.str (integerText n)) = place.make (.float (.ofInt n)) := by
  have text := numberOf?_integerText n
  have double := numberOf?_float (ofInt_ne_nan n)
  have own : numberOf? (.int n) = some (.int n) := rfl
  refine ⟨isExact_of_le, ⟨fun exact place v c made record => ?_, isExact_of_apply⟩,
    ⟨fun exact place => ?_, isExact_of_make⟩, fun place v c made record => ?_,
    fun place => place.make_eq text double⟩
  · exact place.apply_congr made text own (isExact_iff.1 exact) record
  · exact place.make_alike text own (isExact_iff.1 exact)
  · exact place.apply_congr made text double rfl record

/-- The text of the first whole number that is no double reads as the number before it. -/
theorem bounds_on_text_inexact :
    integerText 9007199254740993 = "9007199254740993" ∧
    atMost (.int 9007199254740992) = .ok ⟨.atMost, .int 9007199254740992⟩ ∧
    (Rule.comparison ⟨.atMost, .int 9007199254740992⟩).apply (.int 9007199254740993) .null =
      pure (some (.ofCode (.str Code.tooHigh))) ∧
    (Rule.comparison ⟨.atMost, .int 9007199254740992⟩).apply (.str "9007199254740993") .null =
      pure none := by
  let limit : Bounds := .atMost (.int 9007199254740992)
  have spelt : integerText 9007199254740993 = "9007199254740993" := by decide +kernel
  have above : limit.code (.int 9007199254740993) = some Code.tooHigh := by decide +kernel
  have inside : limit.code (.float (.ofInt 9007199254740993)) = none := by decide +kernel
  have text := numberOf?_integerText 9007199254740993
  have own : numberOf? (.int 9007199254740993) = some (.int 9007199254740993) := rfl
  rw [spelt] at text
  refine ⟨spelt, rfl, (limit.apply_rule _ _).trans ?_, (limit.apply_rule _ _).trans ?_⟩
  · rw [own, Option.elim_some, above]
    rfl
  · rw [text, Option.elim_some, inside]
    rfl

end Text

end Comparison

end RecordCheck
