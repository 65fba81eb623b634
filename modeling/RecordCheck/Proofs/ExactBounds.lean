import Mathlib.Algebra.Order.Field.Rat
import Mathlib.Order.WithBot
import RecordCheck.Proofs.BoundsOnText
import RecordCheck.Proofs.Interchange
import RecordCheck.Proofs.Rounding

/-!
# Bounds as intervals of the number line

A number stands for a rational number or for one of the two ends of the number line. Bounds are
compared with what values stand for, and nothing is rounded: an upper bound refuses what lies above
it, a lower bound what lies below it, and two bounds are the ends of an interval, whichever of them
is given first.

## Main definitions

* `Number.standsFor?`: what a number stands for.
* `Comparison.place?`, `Comparison.IsNoNumber`: what a value reads as.

## Main statements

* `Number.lt_iff`: numbers are compared by what they stand for.
* `Comparison.place?_eq_none_iff`: the values that read as no number.
* `Comparison.exact_bounds`: what bounds accept and what they report.
-/
set_option autoImplicit false

namespace RecordCheck

open Act

/-- The rational numbers with both ends of the number line. -/
abbrev ExtendedRat := WithBot (WithTop ℚ)

/-- A rational number among them. -/
def ExtendedRat.ofRat (q : ℚ) : ExtendedRat := WithBot.some (WithTop.some q)

theorem ExtendedRat.ofRat_lt_ofRat {p q : ℚ} : ofRat p < ofRat q ↔ p < q := by
  rw [ofRat, ofRat, WithBot.coe_lt_coe, WithTop.coe_lt_coe]

theorem ExtendedRat.ofRat_lt_top (q : ℚ) : ofRat q < ⊤ :=
  WithBot.coe_lt_coe.2 (WithTop.coe_lt_top q)

open ExtendedRat

/-! ## What numbers stand for -/

/-- A point of the number line, with the number of units that make up one. -/
def Extended.place (unit : Nat) : Extended → ExtendedRat
  | .minusInfinity => ⊥
  | .finite units => ofRat (units / unit)
  | .plusInfinity => ⊤

section Place

variable {unit : Nat} (positive : 0 < unit) {a b : Extended}
include positive

theorem Extended.lt_iff : a.lt b ↔ a.place unit < b.place unit := by
  have unit_pos : (0 : ℚ) < unit := Nat.cast_pos.2 positive
  cases a with
  | minusInfinity => cases b <;> simp [Extended.lt, place, ofRat, WithBot.bot_lt_coe]
  | plusInfinity => cases b <;> simp [Extended.lt, place]
  | finite m =>
    cases b with
    | minusInfinity => simp [Extended.lt, place]
    | plusInfinity => simpa [Extended.lt, place] using ofRat_lt_top _
    | finite n =>
      simp only [Extended.lt, place, decide_eq_true_eq, ofRat_lt_ofRat,
        div_lt_div_iff_of_pos_right unit_pos, Int.cast_lt]

theorem Extended.place_inj (same : a.place unit = b.place unit) : a = b := by
  have unit_ne : (unit : ℚ) ≠ 0 := (Nat.cast_pos.2 positive).ne'
  cases a <;> cases b <;> simp_all [place, ofRat]

end Place

namespace Number

/-- What a number stands for. NaN stands for nothing. -/
def standsFor? : Number → Option ExtendedRat
  | .int n => some (ofRat n)
  | .float (.finite negative units _) =>
    some (ofRat ((if negative then -(units : ℚ) else units) / Binary64.one))
  | .float (.infinite negative) => some (if negative then ⊥ else ⊤)
  | .float (.nan _) => none

theorem standsFor?_eq (n : Number) : n.standsFor? = n.value.map (Extended.place Binary64.one) := by
  cases n with
  | int n =>
    have unit_ne : (Binary64.one : ℚ) ≠ 0 := Binary64.cast_one_pos.ne'
    have whole : ((n * Binary64.one : Int) : ℚ) / Binary64.one = n := by
      rw [Int.cast_mul, Int.cast_natCast, mul_div_cancel_right₀ _ unit_ne]
    rw [value, Option.map_some, Extended.place, whole, standsFor?]
  | float x =>
    cases x with
    | finite negative units representable =>
      rw [value, Binary64.value, Option.map_some, Extended.place, standsFor?]
      cases negative <;> simp only [Bool.false_eq_true, if_false, if_true, Int.cast_neg,
        Int.cast_natCast]
    | infinite negative => cases negative <;> rfl
    | nan payload => rfl

variable {m n : Number} {x y : ExtendedRat}

theorem exists_value_of_standsFor? (stands : m.standsFor? = some x) :
    ∃ p, m.value = some p ∧ p.place Binary64.one = x := by
  rw [standsFor?_eq] at stands
  exact Option.map_eq_some_iff.1 stands

/-- Numbers are compared by what they stand for. -/
theorem lt_iff (own : m.standsFor? = some x) (other : n.standsFor? = some y) : m.lt n ↔ x < y := by
  obtain ⟨p, at_p, rfl⟩ := exists_value_of_standsFor? own
  obtain ⟨q, at_q, rfl⟩ := exists_value_of_standsFor? other
  rw [lt, at_p, at_q]
  exact Extended.lt_iff Binary64.one_pos

theorem same_of_standsFor? (own : m.standsFor? = some x) (other : n.standsFor? = some x) :
    m.same n := by
  obtain ⟨p, at_p, place⟩ := exists_value_of_standsFor? own
  obtain ⟨q, at_q, rfl⟩ := exists_value_of_standsFor? other
  exact same_iff.2 ⟨q, Extended.place_inj Binary64.one_pos place ▸ at_p, at_q⟩

end Number

namespace Comparison

/-! ## What values read as -/

/-- What a value reads as. -/
def place? (v : Value) : Option ExtendedRat := (numberOf? v).bind Number.standsFor?

/-- The values that read as no number. -/
inductive IsNoNumber : Value → Prop
  | notScalar {v : Value} : v.isScalar = false → IsNoNumber v
  | bool (b : Bool) : IsNoNumber (.bool b)
  | nan (payload : Nat) : IsNoNumber (.float (.nan payload))
  | brokenStr (codes : List Nat) : IsNoNumber (.brokenStr codes)
  | str {s : String} : readFloat? s.toList = none → IsNoNumber (.str s)
  | nanText {s : String} {payload : Nat} : readFloat? s.toList = some (.nan payload) →
      IsNoNumber (.str s)

/-- A value reads as nothing at all, or as something with a place on the number line. -/
theorem numberOf?_cases (v : Value) : (numberOf? v = none ∧ IsNoNumber v) ∨
    (∃ n, numberOf? v = some n ∧ ∃ x, n.standsFor? = some x) ∧ ¬ IsNoNumber v := by
  cases v with
  | int n => exact .inr ⟨⟨_, rfl, _, rfl⟩, nofun⟩
  | float x =>
    cases x with
    | nan payload => exact .inl ⟨rfl, .nan payload⟩
    | finite | infinite => exact .inr ⟨⟨_, rfl, _, rfl⟩, nofun⟩
  | str s =>
    cases read : readFloat? s.toList with
    | none => exact .inl ⟨by rw [numberOf?, read], .str read⟩
    | some x =>
      cases x with
      | nan payload => exact .inl ⟨by rw [numberOf?, read], .nanText read⟩
      | finite | infinite =>
        refine .inr ⟨⟨_, by rw [numberOf?, read], _, rfl⟩, fun noNumber => ?_⟩
        cases noNumber <;> simp_all [Value.isScalar]
  | bool b => exact .inl ⟨rfl, .bool b⟩
  | brokenStr codes => exact .inl ⟨rfl, .brokenStr codes⟩
  | _ => exact .inl ⟨rfl, .notScalar rfl⟩

theorem place?_eq_none_iff {v : Value} : place? v = none ↔ IsNoNumber v := by
  rcases numberOf?_cases v with ⟨own, noNumber⟩ | ⟨⟨n, own, x, stands⟩, number⟩
  · simp [place?, own, noNumber]
  · simp [place?, own, stands, number]

theorem exists_number_of_place? {v : Value} {x : ExtendedRat} (placed : place? v = some x) :
    ∃ n, numberOf? v = some n ∧ n.standsFor? = some x :=
  Option.bind_eq_some_iff.1 placed

/-! ## Codes -/

/-- The code for what lies above a limit. -/
def aboveCode (high x : ExtendedRat) : Option String :=
  if high < x then some Code.tooHigh else none

/-- The code for what lies below a limit. -/
def belowCode (low x : ExtendedRat) : Option String :=
  if x < low then some Code.tooLow else none

/-- The code for what a value reads as; the format is wrong if it reads as no number. -/
def placeCode (code : ExtendedRat → Option String) (v : Value) : Option String :=
  (place? v).elim (some Code.formatError) code

variable {v w : Value} {m n : Number} {x y : ExtendedRat}

theorem placeCode_eq {code : Number → Option String} {code' : ExtendedRat → Option String}
    (same : ∀ n x, n.standsFor? = some x → code n = code' x) (v : Value) :
    (numberOf? v).elim (some Code.formatError) code = placeCode code' v := by
  rw [placeCode, place?]
  rcases numberOf?_cases v with ⟨own, -⟩ | ⟨⟨n, own, x, stands⟩, -⟩
  · simp only [own, Option.bind_none, Option.elim_none]
  · simp only [own, stands, Option.bind_some, Option.elim_some, same n x stands]

theorem placeCode_of_noNumber {code : ExtendedRat → Option String} (noNumber : IsNoNumber v) :
    placeCode code v = some Code.formatError := by
  rw [placeCode, place?_eq_none_iff.2 noNumber, Option.elim_none]

theorem placeCode_of_place {code : ExtendedRat → Option String} (placed : place? v = some x) :
    placeCode code v = code x := by
  rw [placeCode, placed, Option.elim_some]

namespace Bounds

theorem code_atMost (own : m.standsFor? = some x) {k : Number} {z : ExtendedRat}
    (stands : k.standsFor? = some z) : (atMost m).code k = aboveCode x z := by
  simp only [code, aboveCode, Number.lt_iff own stands]

theorem code_atLeast (own : m.standsFor? = some x) {k : Number} {z : ExtendedRat}
    (stands : k.standsFor? = some z) : (atLeast m).code k = belowCode x z := by
  simp only [code, belowCode, Number.lt_iff stands own]

theorem code_within (m n k : Number) : (within m n).code k =
    ((atMost n).code k).or ((atLeast m).code k) := by
  simp only [code]
  split <;> rfl

/-- Limits in either order are put in the order of what they stand for. -/
theorem exists_between (own : m.standsFor? = some x) (other : n.standsFor? = some y) :
    ∃ low high, between m n = .within low high ∧ low.standsFor? = some (min x y) ∧
      high.standsFor? = some (max x y) := by
  unfold between
  by_cases less : y < x
  · rw [if_pos ((Number.lt_iff other own).2 less)]
    exact ⟨n, m, rfl, by rw [other, min_eq_right less.le], by rw [own, max_eq_left less.le]⟩
  · rw [if_neg fun lt => less ((Number.lt_iff other own).1 lt)]
    have le := not_lt.1 less
    exact ⟨m, n, rfl, by rw [own, min_eq_left le], by rw [other, max_eq_right le]⟩

theorem rule_within_same {m' n' : Number} (low : m.standsFor? = some x)
    (low' : m'.standsFor? = some x) (high : n.standsFor? = some y)
    (high' : n'.standsFor? = some y) :
    (Rule.comparison (within m n).rule).same (.comparison (within m' n').rule) := by
  have same {a b : Number} {z : ExtendedRat} (one : a.standsFor? = some z)
      (two : b.standsFor? = some z) : (Value.ofNumber a).alike (Value.ofNumber b) := by
    have ofNumber (n : Number) : (Value.ofNumber n).number? = some n := by cases n <;> rfl
    have equal := Value.same_of_number (ofNumber a) (ofNumber b) (Number.same_of_standsFor? one two)
    rw [Value.alike, equal, Bool.or_true]
  refine Rule.comparison_same rfl (Value.same_iff.2 (.tuple (Value.sameSequence_iff.2 ?_)))
  exact .cons (same low low') (.cons (same high high') .nil)

end Bounds

/-! ## Rules -/

open Rule

theorem firstOf_reportOf (code code' : Option String) :
    firstOf (pure (reportOf code)) (pure (reportOf code')) = pure (reportOf (code.or code')) := by
  cases code <;> rfl

/-- What an upper bound reports. -/
theorem exists_atMost (placed : place? v = some x) : ∃ most, atMost v = .ok most ∧
    ∀ w record, (comparison most).apply w record =
      pure (reportOf (placeCode (aboveCode x) w)) := by
  obtain ⟨m, own, stands⟩ := exists_number_of_place? placed
  refine ⟨_, make_most own, fun w record => ?_⟩
  rw [Bounds.apply_rule, placeCode_eq fun _ _ => Bounds.code_atMost stands]

/-- What a lower bound reports. -/
theorem exists_atLeast (placed : place? v = some x) : ∃ least, atLeast v = .ok least ∧
    ∀ w record, (comparison least).apply w record =
      pure (reportOf (placeCode (belowCode x) w)) := by
  obtain ⟨m, own, stands⟩ := exists_number_of_place? placed
  refine ⟨_, make_least own, fun w record => ?_⟩
  rw [Bounds.apply_rule, placeCode_eq fun _ _ => Bounds.code_atLeast stands]

/-- Two bounds report what the greater one reports, and otherwise what the lesser one does. -/
theorem exists_within (first : place? v = some x) (second : place? w = some y) :
    ∃ m n, within v w = .ok (Bounds.within m n).rule ∧ m.standsFor? = some (min x y) ∧
      n.standsFor? = some (max x y) ∧
      ∀ u record, (comparison (Bounds.within m n).rule).apply u record = pure (reportOf
        ((placeCode (aboveCode (max x y)) u).or (placeCode (belowCode (min x y)) u))) := by
  obtain ⟨m, own, stands⟩ := exists_number_of_place? first
  obtain ⟨n, other, stands'⟩ := exists_number_of_place? second
  obtain ⟨low, high, between, least, most⟩ := Bounds.exists_between stands stands'
  have made := within_of_limits (limit_of_number own) (limit_of_number other)
  refine ⟨low, high, between ▸ made, least, most, fun u record => ?_⟩
  have both (k : Number) (z : ExtendedRat) (stands : k.standsFor? = some z) :
      (Bounds.within low high).code k =
        (aboveCode (max x y) z).or (belowCode (min x y) z) := by
    rw [Bounds.code_within, Bounds.code_atMost most stands, Bounds.code_atLeast least stands]
  rw [Bounds.apply_rule, placeCode_eq both]
  rcases numberOf?_cases u with ⟨-, noNumber⟩ | ⟨⟨k, own, z, stands⟩, -⟩
  · simp only [placeCode_of_noNumber noNumber, Option.some_or]
  · have placed : place? u = some z := by rw [place?, own, Option.bind_some, stands]
    simp only [placeCode_of_place placed]

theorem exists_limit_error (rule : String) (own : numberOf? v = none) :
    ∃ e, limit rule v = .error e := by
  rw [limit, own]
  cases Error.quotedOf v <;> exact ⟨_, rfl⟩

theorem within_accepts_iff : (∃ c, within v w = .ok c) ↔ ¬ IsNoNumber v ∧ ¬ IsNoNumber w := by
  rcases numberOf?_cases v with ⟨own, noNumber⟩ | ⟨⟨m, own, -⟩, first⟩
  · obtain ⟨e, refused⟩ := exists_limit_error "number_between" own
    have failed : within v w = .error e := by
      rw [within, refused]
      rfl
    simp [failed, noNumber]
  · have made : limit "number_between" v = .ok m := limit_of_number own
    rcases numberOf?_cases w with ⟨other, noNumber⟩ | ⟨⟨n, other, -⟩, second⟩
    · obtain ⟨e, refused⟩ := exists_limit_error "number_between" other
      have failed : within v w = .error e := by
        rw [within, made, refused]
        rfl
      simp [failed, noNumber]
    · have accepted := within_of_limits made (limit_of_number other)
      simp [accepted, first, second]

theorem place?_ofNumber (n : Number) : place? (.ofNumber n) = n.standsFor? := by
  cases n with
  | int n => rfl
  | float x => cases x <;> rfl

/-- Numbers read as what they stand for, and some values as no number. An upper bound refuses what
lies above it, and a lower one what lies below it. Two bounds are accepted if both read as numbers,
and in either order they make the same rule, which reports what the greater one reports as an upper
bound, and otherwise what the lesser one reports as a lower bound. What reads as no number has the
wrong format for all of them. -/
theorem exact_bounds :
    (∀ n : Number, place? (.ofNumber n) = n.standsFor?) ∧
    (∀ v, place? v = none ↔ IsNoNumber v) ∧
    (∀ limit y, place? limit = some y → ∃ most least,
      atMost limit = .ok most ∧ atLeast limit = .ok least ∧
      (∀ v x record, place? v = some x →
        (comparison most).apply v record =
          pure (reportOf (if y < x then some Code.tooHigh else none)) ∧
        (comparison least).apply v record =
          pure (reportOf (if x < y then some Code.tooLow else none))) ∧
      ∀ v record, IsNoNumber v →
        (comparison most).apply v record = pure (reportOf (some Code.formatError)) ∧
        (comparison least).apply v record = pure (reportOf (some Code.formatError))) ∧
    ∀ a b, ((∃ c, within a b = .ok c) ↔ ¬ IsNoNumber a ∧ ¬ IsNoNumber b) ∧
      ∀ x y, place? a = some x → place? b = some y → ∃ c d,
        within a b = .ok c ∧ within b a = .ok d ∧
        (comparison c).same (comparison d) ∧ (comparison d).same (comparison c) ∧
        (∀ low high, place? low = some (min x y) → place? high = some (max x y) → ∃ most least,
          atMost high = .ok most ∧ atLeast low = .ok least ∧ ∀ v record,
            (comparison c).apply v record = firstOf ((comparison most).apply v record)
              ((comparison least).apply v record) ∧
            (comparison d).apply v record = firstOf ((comparison most).apply v record)
              ((comparison least).apply v record)) ∧
        ∀ v record, IsNoNumber v →
          (comparison c).apply v record = pure (reportOf (some Code.formatError)) ∧
          (comparison d).apply v record = pure (reportOf (some Code.formatError)) := by
  refine ⟨place?_ofNumber, fun v => place?_eq_none_iff, ?_, fun a b => ⟨within_accepts_iff, ?_⟩⟩
  · intro limit y placed
    obtain ⟨most, upper, above⟩ := exists_atMost placed
    obtain ⟨least, lower, below⟩ := exists_atLeast placed
    refine ⟨most, least, upper, lower, fun v x record at_x => ⟨?_, ?_⟩,
      fun v record noNumber => ⟨?_, ?_⟩⟩
    · rw [above, placeCode_of_place at_x, aboveCode]
    · rw [below, placeCode_of_place at_x, belowCode]
    · rw [above, placeCode_of_noNumber noNumber]
    · rw [below, placeCode_of_noNumber noNumber]
  · intro x y first second
    obtain ⟨m, n, made, low, high, reports⟩ := exists_within first second
    obtain ⟨m', n', made', low', high', reports'⟩ := exists_within second first
    rw [min_comm] at low'
    rw [max_comm] at high'
    simp only [min_comm y, max_comm y] at reports'
    refine ⟨_, _, made, made', Bounds.rule_within_same low low' high high',
      Bounds.rule_within_same low' low high' high, ?_, fun v record noNumber => ?_⟩
    · intro lesser greater least most
      obtain ⟨upper, madeUpper, above⟩ := exists_atMost most
      obtain ⟨lower, madeLower, below⟩ := exists_atLeast least
      refine ⟨upper, lower, madeUpper, madeLower, fun v record => ?_⟩
      rw [reports, reports', above, below, firstOf_reportOf]
      exact ⟨rfl, rfl⟩
    · rw [reports, reports', placeCode_of_noNumber noNumber]
      exact ⟨rfl, rfl⟩

/-- Beyond all doubles, whole numbers are still told apart, and infinity lies above them. -/
theorem exact_bounds_of_large :
    let large : Int := Nat.pow 10 400
    ∃ c most least, within (.float (.infinite false)) (.int large) = .ok c ∧
      atMost (.float (.infinite false)) = .ok most ∧ atLeast (.int large) = .ok least ∧
      (comparison least).apply (.int (large - 1)) .null =
        pure (some (.ofCode (.str Code.tooLow))) ∧
      (comparison c).apply (.int (large - 1)) .null =
        pure (some (.ofCode (.str Code.tooLow))) ∧
      (comparison c).apply (.bool true) .null =
        pure (some (.ofCode (.str Code.formatError))) := by
  intro large
  have end_at : place? (.float (.infinite false)) = some ⊤ := rfl
  have large_at : place? (.int large) = some (ofRat large) := rfl
  have below_at : place? (.int (large - 1)) = some (ofRat (large - 1 : Int)) := rfl
  have less : ofRat (large - 1 : Int) < ofRat large :=
    ofRat_lt_ofRat.2 (Int.cast_lt.2 (sub_one_lt large))
  obtain ⟨-, -, single, double⟩ := exact_bounds
  obtain ⟨most, _, upper, -, above, -⟩ := single _ _ end_at
  obtain ⟨_, least, -, lower, below, -⟩ := single _ _ large_at
  obtain ⟨c, _, made, -, -, -, both, wrong⟩ := (double _ _).2 _ _ end_at large_at
  obtain ⟨most', least', upper', lower', reports⟩ := both (.int large) (.float (.infinite false))
    (by rw [large_at, min_eq_right le_top]) (by rw [end_at, max_eq_left le_top])
  obtain rfl : most = most' := Except.ok.inj (upper.symm.trans upper')
  obtain rfl : least = least' := Except.ok.inj (lower.symm.trans lower')
  have tooLow := (below _ _ .null below_at).2
  rw [if_pos less] at tooLow
  refine ⟨c, most, least, made, upper, lower, tooLow, ?_, (wrong _ .null (.bool true)).1⟩
  rw [(reports _ .null).1, tooLow, (above _ _ .null below_at).1, if_neg not_top_lt]
  rfl

end Comparison

end RecordCheck
