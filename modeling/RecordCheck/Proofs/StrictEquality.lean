import RecordCheck.Proofs.IntegerRules

/-!
# Strict equality

Two scalars agree strictly when one and the same content stands in both: a truth value, a whole
number, a place on the number line, or a text, each kind with contents of its own. A NaN has no
content, so it agrees with nothing. The rules for accepted values and the rule for another field all
ask for this agreement.

## Main definitions

* `Value.Content`, `Value.content?`: what a scalar holds.

## Main statements

* `Value.strictlySame_iff_content`: scalars agree strictly just if they hold the same.
* `Rule.equalTo_apply`, `Rule.oneOf_apply`, `Rule.sameAs_apply`: what the rules report.
* `Rule.strict_membership`: the relation, and how the rules go together.
-/
set_option autoImplicit false

namespace RecordCheck

/-- Whole numbers are the same only if they are one number. -/
theorem Number.int_same_int {m n : Int} : (int m).same (.int n) ↔ m = n := by
  have unit : (Binary64.one : Int) ≠ 0 := by decide +kernel
  rw [same_iff]
  constructor
  · rintro ⟨x, one, two⟩
    have places := Extended.finite.inj (Option.some.inj (one.trans two.symm))
    exact Int.eq_of_mul_eq_mul_right unit places
  · rintro rfl
    exact ⟨_, rfl, rfl⟩

namespace Value

/-! ## Contents -/

/-- What a scalar can hold. -/
inductive Content where
  | truth (b : Bool)
  | whole (n : Int)
  | place (x : Extended)
  | text (s : String)
  | codes (codes : List Nat)

/-- The kind of the scalars with a content. -/
def Content.kind : Content → Kind
  | .truth _ => .bool
  | .whole _ => .int
  | .place _ => .float
  | .text _ | .codes _ => .str

/-- What a scalar holds. NaN is at no place of the number line. -/
def content? : Value → Option Content
  | .bool b => some (.truth b)
  | .int n => some (.whole n)
  | .float x => x.value.map .place
  | .str s => some (.text s)
  | .brokenStr codes => some (.codes codes)
  | _ => none

variable {u v w : Value}

theorem content?_eq_none_iff (scalar : v.isScalar = true) :
    v.content? = none ↔ ∃ payload, v = .float (.nan payload) := by
  cases v with
  | float x => cases x <;> simp [content?, Binary64.value]
  | bool | int | str | brokenStr => simp [content?]
  | _ => cases scalar

theorem kind_of_content {c : Content} (h : v.content? = some c) : v.kind = c.kind := by
  cases v with
  | float x =>
    obtain ⟨place, -, rfl⟩ := Option.map_eq_some_iff.1 h
    rfl
  | bool | int | str | brokenStr =>
    cases h
    rfl
  | _ => cases h

/-- Among scalars of one kind, the content tells which are the same. -/
theorem same_iff_content (scalar : v.isScalar = true) (kinds : v.kind = w.kind) :
    v.same w ↔ ∃ c, v.content? = some c ∧ w.content? = some c := by
  cases v with
  | bool a =>
    obtain ⟨b, rfl⟩ : ∃ b, w = .bool b := by cases w <;> cases kinds; exact ⟨_, rfl⟩
    rw [Value.same, sameNumber, number?, Number.int_same_int]
    cases a <;> cases b <;> simp [content?]
  | int m =>
    obtain ⟨n, rfl⟩ : ∃ n, w = .int n := by cases w <;> cases kinds; exact ⟨_, rfl⟩
    rw [Value.same, sameNumber, number?, Number.int_same_int]
    simpa [content?] using eq_comm
  | float x =>
    obtain ⟨y, rfl⟩ : ∃ y, w = .float y := by cases w <;> cases kinds; exact ⟨_, rfl⟩
    rw [Value.same, sameNumber, number?, Number.same_iff]
    simp [content?, Number.value]
  | str s =>
    obtain ⟨t, rfl⟩ | ⟨codes, rfl⟩ : (∃ t, w = .str t) ∨ ∃ codes, w = .brokenStr codes := by
      cases w <;> cases kinds <;> simp
    · simpa [content?, Value.same] using eq_comm
    · simp [content?, Value.same]
  | brokenStr codes =>
    obtain ⟨t, rfl⟩ | ⟨codes, rfl⟩ : (∃ t, w = .str t) ∨ ∃ codes, w = .brokenStr codes := by
      cases w <;> cases kinds <;> simp
    · simp [content?, Value.same]
    · simpa [content?, Value.same] using eq_comm
  | _ => cases scalar

/-- Scalars agree strictly just if they hold the same. -/
theorem strictlySame_iff_content (scalar : v.isScalar = true) :
    v.strictlySame w ↔ ∃ c, v.content? = some c ∧ w.content? = some c := by
  rw [strictlySame_iff]
  constructor
  · rintro ⟨kinds, same⟩
    exact (same_iff_content scalar kinds).1 same
  · rintro ⟨c, own, other⟩
    have kinds := (kind_of_content own).trans (kind_of_content other).symm
    exact ⟨kinds, (same_iff_content scalar kinds).2 ⟨c, own, other⟩⟩

/-! ## The relation -/

theorem strictlySame_comm (own : v.isScalar = true) (other : w.isScalar = true) :
    v.strictlySame w = w.strictlySame v := by
  rw [Bool.eq_iff_iff, strictlySame_iff_content own, strictlySame_iff_content other]
  simp only [and_comm]

theorem strictlySame_trans (one : u.strictlySame v) (two : v.strictlySame w) :
    u.strictlySame w := by
  rw [strictlySame_iff] at *
  exact ⟨one.1.trans two.1, same_trans one.2 two.2⟩

/-- A scalar agrees with itself unless it is a NaN. -/
theorem strictlySame_self_iff (scalar : v.isScalar = true) :
    v.strictlySame v ↔ ∀ payload, v ≠ .float (.nan payload) := by
  have nan := content?_eq_none_iff scalar
  rw [strictlySame_iff_content scalar, ← not_exists, ← nan, ← ne_eq, Option.ne_none_iff_exists']
  simp only [and_self]

end Value

/-- Only accepted values and bounds are taken from a stream. -/
theorem Comparison.apply_of_single {c : Comparison} (notOneOf : c.operator ≠ .oneOf)
    (notWithin : c.operator ≠ .within) (v record : Value) :
    c.apply v record = liftM (c.judge v record) := by
  unfold apply
  split
  · next operator _ => exact absurd operator notOneOf
  · next operator _ => exact absurd operator notWithin
  · rfl

namespace Rule

open Comparison

/-! ## Rules -/

section Reports

variable {v w record : Value}

theorem equalTo_apply (v w record : Value) : (comparison (.equalTo w)).apply v record =
    pure (reportOf (if v.isScalar then codeUnless (v.strictlySame w) Code.notAllowedValue
      else some Code.formatError)) := by
  have judged : judge (.equalTo w) v record =
      .ok (if v.isScalar then codeUnless (v.strictlySame w) Code.notAllowedValue
        else some Code.formatError) := by
    by_cases scalar : v.isScalar = true
    · rw [if_pos scalar]
      exact if_pos scalar
    · rw [if_neg scalar]
      exact if_neg scalar
  rw [Rule.apply, apply_of_single (by simp [equalTo]) (by simp [equalTo]), judged]
  rfl

theorem oneOf_apply (accepted : List Value) (v record : Value) :
    (comparison ⟨.oneOf, .tuple accepted⟩).apply v record =
      pure (reportOf (if v.isScalar then
        codeUnless (accepted.any fun w => v.strictlySame w) Code.notAllowedValue
      else some Code.formatError)) := by
  refine comparison_apply (by simp) ?_
  by_cases scalar : v.isScalar = true
  · rw [if_pos scalar]
    exact if_pos scalar
  · rw [if_neg scalar]
    exact if_neg scalar

theorem sameAs_apply {field : Value} (isRecord : record.isRecord = true)
    (read : record.field? field = some w) (scalar : v.isScalar = true) :
    (comparison (.sameAs field)).apply v record =
      pure (reportOf (codeUnless (v.strictlySame w) Code.fieldsNotEqual)) := by
  have judged : judge (.sameAs field) v record =
      .ok (codeUnless (v.strictlySame w) Code.fieldsNotEqual) := by
    refine (if_pos scalar).trans ?_
    cases record with
    | null => cases isRecord
    | _ =>
      simp only [onScalar, sameAs, againstField, read]
      rfl
  rw [Rule.apply, apply_of_single (by simp [sameAs]) (by simp [sameAs]), judged]
  rfl

/-- Just what some accepted value accepts on its own is accepted by all of them together. -/
theorem oneOf_accepts_iff (accepted : List Value) (scalar : v.isScalar = true) (record : Value) :
    (comparison ⟨.oneOf, .tuple accepted⟩).apply v record = pure none ↔
      ∃ w ∈ accepted, (comparison (.equalTo w)).apply v record = pure none := by
  have passes (passed : Bool) :
      (pure (reportOf (codeUnless passed Code.notAllowedValue)) : Act _) = pure none ↔
        passed = true := by
    change _ = pure (reportOf (codeUnless true Code.notAllowedValue)) ↔ _
    rw [pure_reportOf_inj, codeUnless_inj]
  simp only [oneOf_apply, equalTo_apply, if_pos scalar, passes, List.any_eq_true]

/-- Neither the order of accepted values counts nor how often each is given. -/
theorem oneOf_congr {accepted accepted' : List Value} (same : ∀ w, w ∈ accepted ↔ w ∈ accepted')
    (v record : Value) : (comparison ⟨.oneOf, .tuple accepted⟩).apply v record =
      (comparison ⟨.oneOf, .tuple accepted'⟩).apply v record := by
  have found : (accepted.any fun w => v.strictlySame w) =
      accepted'.any fun w => v.strictlySame w := by
    rw [Bool.eq_iff_iff, List.any_eq_true, List.any_eq_true]
    simp only [same]
  rw [oneOf_apply, oneOf_apply, found]

/-- On scalars, strict equality is symmetric and transitive, holds of everything and itself but a
NaN, and never between different kinds. A list of accepted values accepts what some of them accepts,
whatever their order and number. Two fields with scalars report the same about each other, and do
so just if the value of one is not accepted as that of the other. -/
theorem strict_membership :
    (∀ v w : Value, v.isScalar = true → w.isScalar = true → v.strictlySame w = w.strictlySame v) ∧
    (∀ u v w : Value, u.strictlySame v → v.strictlySame w → u.strictlySame w) ∧
    (∀ v : Value, v.isScalar = true → (v.strictlySame v ↔ ∀ payload, v ≠ .float (.nan payload))) ∧
    (∀ v w : Value, v.strictlySame w → v.kind = w.kind) ∧
    (∀ cs : List Value, ∃ c, Comparison.oneOf (.list cs) = pure c ∧
      (∀ v record, v.isScalar = true → ((comparison c).apply v record = pure none ↔
        ∃ w ∈ cs, (comparison (.equalTo w)).apply v record = pure none)) ∧
      ∀ ds : List Value, (∀ w, w ∈ cs ↔ w ∈ ds) → ∃ d, Comparison.oneOf (.list ds) = pure d ∧
        ∀ v record, (comparison c).apply v record = (comparison d).apply v record) ∧
    ∀ record f g v w : Value, record.isRecord = true → record.field? f = some v →
      record.field? g = some w → v.isScalar = true → w.isScalar = true →
        (comparison (.sameAs g)).apply v record =
          pure (reportOf (codeUnless (v.strictlySame w) Code.fieldsNotEqual)) ∧
        (comparison (.sameAs f)).apply w record =
          pure (reportOf (codeUnless (v.strictlySame w) Code.fieldsNotEqual)) ∧
        (comparison (.equalTo w)).apply v record =
          pure (reportOf (codeUnless (v.strictlySame w) Code.notAllowedValue)) ∧
        (comparison (.equalTo v)).apply w record =
          pure (reportOf (codeUnless (v.strictlySame w) Code.notAllowedValue)) := by
  refine ⟨fun v w => Value.strictlySame_comm, fun u v w => Value.strictlySame_trans,
    fun v => Value.strictlySame_self_iff, fun v w same => (Value.strictlySame_iff.1 same).1,
    fun cs => ⟨_, rfl, fun v record scalar => oneOf_accepts_iff cs scalar record,
      fun ds same => ⟨_, rfl, oneOf_congr same⟩⟩, ?_⟩
  intro record f g v w isRecord first second own other
  have swap := Value.strictlySame_comm own other
  refine ⟨sameAs_apply isRecord second own, ?_, ?_, ?_⟩
  · rw [swap, sameAs_apply isRecord first other]
  · rw [equalTo_apply, if_pos own]
  · rw [swap, equalTo_apply, if_pos other]

/-- A number and a truth value with the same value differ, also among accepted values. -/
theorem strict_membership_of_kinds :
    let record := Value.dict [(.str "a", .int 1), (.str "b", .bool true)]
    record.isRecord = true ∧ record.field? (.str "a") = some (.int 1) ∧
    record.field? (.str "b") = some (.bool true) ∧
    (comparison (.sameAs (.str "b"))).apply (.int 1) record =
      pure (some (.ofCode (.str Code.fieldsNotEqual))) ∧
    (comparison (.sameAs (.str "a"))).apply (.bool true) record =
      pure (some (.ofCode (.str Code.fieldsNotEqual))) ∧
    ∃ c, Comparison.oneOf (.list [.bool true, .int 1, .bool true]) = pure c ∧
      (comparison c).apply (.int 1) record = pure none := by
  intro record
  have first : record.field? (.str "a") = some (.int 1) := by
    simp [record, Value.field?, Value.isHashable, Keyed.find?, Value.same]
  have second : record.field? (.str "b") = some (.bool true) := by
    simp [record, Value.field?, Value.isHashable, Keyed.find?, Value.same]
  obtain ⟨-, -, self, -, accepted, fields⟩ := strict_membership
  have one : (Value.int 1).strictlySame (.int 1) := (self _ rfl).2 (by simp)
  obtain ⟨forth, back, -⟩ := fields record _ _ _ _ rfl first second rfl rfl
  obtain ⟨c, made, some, -⟩ := accepted [.bool true, .int 1, .bool true]
  refine ⟨rfl, first, second, forth, back, c, made, ?_⟩
  refine (some (.int 1) record rfl).2 ⟨.int 1, by simp, ?_⟩
  rw [equalTo_apply, one]
  rfl

end Reports

end Rule

end RecordCheck
