import RecordCheck.Proofs.BoundsOnText
import RecordCheck.Proofs.FloatText

/-!
# Rules for decimals

A finite double and its text, without a zero behind the point, are judged alike by the rules for
decimals and by those about bounds. Of all the text that reads as a double, this is the only one
that the rule for decimals accepts.

## Main definitions

* `Rule.decimal`, `Rule.positiveDecimal`: the two rules.

## Main statements

* `Comparison.floatOf?_bareText`: what the text of a double stands for.
* `Rule.decimal_accepts_iff`: the text that is accepted.
* `Rule.decimal_rules`: doubles and their text are judged alike.
-/
set_option autoImplicit false

namespace RecordCheck

namespace Comparison

variable {x : Binary64}

/-- Text stands for a double just if it is how the double is written. -/
theorem decimalOf?_of_read {s : String} (read : readFloat? s.toList = some x)
    (finite : x.isFinite = true) :
    decimalOf? s = if x.bareText = s.toList then some x else none := by
  rw [decimalOf?, read]
  simp only [finite, Bool.true_and, beq_iff_eq]

theorem floatOf?_bareText (finite : x.isFinite = true) :
    floatOf? (.str (String.ofList x.bareText)) = some x := by
  have read : readFloat? (String.ofList x.bareText).toList = some x := by
    rw [String.toList_ofList, readFloat?_bareText finite]
  rw [floatOf?, decimalOf?_of_read read finite, if_pos String.toList_ofList.symm]

theorem ne_nan_of_isFinite (finite : x.isFinite = true) (payload : Nat) : x ≠ .nan payload := by
  rintro rfl
  cases finite

theorem numberOf?_bareText (finite : x.isFinite = true) :
    numberOf? (.str (String.ofList x.bareText)) = some (.float x) := by
  refine numberOf?_str (ne_nan_of_isFinite finite) ?_
  rw [String.toList_ofList, readFloat?_bareText finite]

end Comparison

namespace Rule

open Comparison

/-! ## Rules for decimals -/

/-- The rule for decimals. -/
def decimal : Rule := .comparison { operator := .decimal }

/-- The rule for positive decimals. -/
def positiveDecimal : Rule := .comparison { operator := .positiveDecimal }

section Scalar

variable {v : Value} (scalar : v.isScalar = true) (record : Value)
include scalar

theorem decimal_apply : decimal.apply v record =
    pure (reportOf (codeUnless (floatOf? v).isSome Code.notDecimal)) :=
  comparison_apply (by simp) (if_pos scalar)

theorem positiveDecimal_apply : positiveDecimal.apply v record =
    pure (reportOf (codeUnless (((floatOf? v).map fun x => (Number.int 0).lt (.float x)).getD false)
      Code.notPositiveDecimal)) :=
  comparison_apply (by simp) (if_pos scalar)

end Scalar

variable {x : Binary64}

/-- A double is written in one way only. -/
theorem decimal_accepts_iff (finite : x.isFinite = true) {s : String}
    (read : readFloat? s.toList = some x) (record : Value) :
    decimal.apply (.str s) record = pure none ↔ s = String.ofList x.bareText := by
  have passed : codeUnless true Code.notDecimal = none := rfl
  change _ = pure (reportOf none) ↔ _
  rw [decimal_apply rfl, pure_reportOf_inj, ← passed, codeUnless_inj, floatOf?,
    decimalOf?_of_read read finite]
  constructor
  · intro accepted
    split at accepted
    · next same => rw [same, String.ofList_toList]
    · cases accepted
  · rintro rfl
    rw [if_pos String.toList_ofList.symm]
    rfl

/-- A finite double reads back from its text, with and without a zero behind the point, and without
it the text is judged like the double by the rules for decimals and about bounds. Of all the text
that reads as the double, no other is accepted as a decimal. -/
theorem decimal_rules {x : Binary64} (finite : x.isFinite = true) (record : Value) :
    let text := String.ofList x.bareText
    readFloat? x.text.toList = some x ∧ readFloat? text.toList = some x ∧
    decimal.apply (.str text) record = decimal.apply (.float x) record ∧
    positiveDecimal.apply (.str text) record = positiveDecimal.apply (.float x) record ∧
    (∀ (place : LimitPlace) (v : Value) (c : Comparison), place.make v = .ok c →
      (comparison c).apply (.str text) record = (comparison c).apply (.float x) record) ∧
    ∀ s : String, readFloat? s.toList = some x →
      (decimal.apply (.str s) record = pure none ↔ s = text) := by
  have number := numberOf?_float (ne_nan_of_isFinite finite)
  have same : floatOf? (.str (String.ofList x.bareText)) = floatOf? (.float x) :=
    floatOf?_bareText finite
  refine ⟨readFloat?_text finite, ?_, ?_, ?_, fun place v c made => ?_, fun s read => ?_⟩
  · rw [String.toList_ofList, readFloat?_bareText finite]
  · rw [decimal_apply rfl, decimal_apply rfl, same]
  · rw [positiveDecimal_apply rfl, positiveDecimal_apply rfl, same]
  · exact place.apply_congr made (numberOf?_bareText finite) number rfl record
  · exact decimal_accepts_iff finite read record

/-- Twelve is written without point, and no other way of writing it is accepted. -/
theorem decimal_rules_of_twelve :
    let x := Binary64.ofInt 12
    x.isFinite = true ∧ String.ofList x.bareText = "12" ∧
    decimal.apply (.str "12") .null = decimal.apply (.float x) .null ∧
    readFloat? " 1_2.0".toList = some x ∧ decimal.apply (.str " 1_2.0") .null ≠ pure none := by
  intro x
  have finite : x.isFinite = true := by decide +kernel
  have text : String.ofList x.bareText = "12" := by decide +kernel
  have read : readFloat? " 1_2.0".toList = some x := by decide +kernel
  obtain ⟨-, -, alike, -, -, only⟩ := decimal_rules finite .null
  rw [text] at alike only
  refine ⟨finite, text, alike, read, fun accepted => ?_⟩
  exact absurd ((only _ read).1 accepted) (by decide)

end Rule

end RecordCheck
