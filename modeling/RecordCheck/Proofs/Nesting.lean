import Mathlib
import RecordCheck.Proofs.Asking
import RecordCheck.Proofs.Calls
import RecordCheck.Proofs.Keyed
import RecordCheck.Proofs.Reading

/-!
# Records inside records

A ruleset can be put inside a rule for a nested record, and this again, along a path of fields. What
is reported about a record is then reported about the record at the end of the path, under the
fields that lead to it, and there is no other trace of the way.

## Main definitions

* `Value.under`, `Value.nestedUnder`: a record or a report, and a ruleset, at the end of a path.
* `Validator.under`: a validator at the end of a path.

## Main statements

* `Registry.build_nestedObject`, `Validator.errors_object`: one step of a path.
* `Validator.errors_under`: a validator at the end of a path.
-/
set_option autoImplicit false

namespace RecordCheck

open Act

/-! ## Paths -/

/-- A value at the end of a path of mappings with one entry each. -/
def Value.under : List Value → Value → Value
  | [], v => v
  | field :: path, v => .dict [(field, v.under path)]

/-- A ruleset at the end of a path of rules for nested records. -/
def Value.nestedUnder : List Value → Value → Value
  | [], ruleset => ruleset
  | field :: path, ruleset =>
    .dict [(field, .dict [(.str "nested_object", ruleset.nestedUnder path)])]

/-- The rules for a field that holds a nested record. -/
def RuleSet.nestedObject (v : Validator) : RuleSet := .mk [.object .null .null v] .null

/-- A validator at the end of a path of nested records, each of which has rules for one field. -/
def Validator.under : List Value → Validator → Validator
  | [], v => v
  | field :: path, v => .fields 0 [(field, .nestedObject (v.under path))]

/-- A report at the end of a path; where there is nothing to report there is no path either. -/
def Value.reportedUnder (path : List Value) (errors : Value) : Value :=
  if errors.isTrue then errors.under path else .dict []

/-! ## One step -/

theorem Value.field_single {field : Value} (isStr : field.isStr) (v : Value) :
    (Value.dict [(field, v)]).field field = .ok v := by
  have hashable : field.isHashable := by
    cases field with
    | str | brokenStr => rfl
    | _ => cases isStr
  simp [Value.field, field?, hashable, Keyed.find?, same_of_isStr isStr]

namespace Registry

variable {g : Registry} (named : g.find? "nested_object" = some (.builtin .nestedObject))
include named

/-- A rule for a nested record holds the validator of its own ruleset. Fields that were declared for
the record around it stay outside. -/
theorem build_nestedObject {source : List (Value × Value)} (distinct : Keyed.IsDistinct source)
    (declared : List (Value × RuleSet)) (field : Value) :
    g.build declared (.dict [(field, .dict [(.str "nested_object", .dict source)])]) =
      (fun v => .fields 0 (Keyed.put field (.nestedObject v) declared)) <$>
        g.build [] (.dict source) := by
  have draft : ruleWithin g [] (g.deeper []) ⟨"nested_object", .dict source⟩ =
      finishWithin g [] (g.deeper []) ⟨.object, .dict source, .null, .null⟩ :=
    ruleWithin_draft named (Builtin.make_nestedObject rfl) (List.mem_singleton_self _)
  rw [build_distinct distinct, build, buildWithin_dict]
  simp [parseWithin_eq, callWithin, draft, finishWithin, RuleSet.nestedObject, Keyed.putAll]

end Registry

/-- What is reported about a nested record is reported under its field. -/
theorem Validator.errors_object {field : Value} (isStr : field.isStr) (v : Validator)
    (record : List (Value × Value)) :
    (Validator.fields 0 [(field, .nestedObject v)]).errors (.dict [(field, .dict record)]) =
      Value.reportedUnder [field] <$> v.errors (.dict record) := by
  have mapping (entries : List (Value × Value)) : (Value.dict entries).isMapping := rfl
  have isRecord (entries : List (Value × Value)) : (Value.dict entries).isRecord := rfl
  have asked (outer : Value) : (RuleSet.nestedObject v).apply (.dict record) outer =
      Report.ofFields <$> v.check (.dict record) := by
    rw [RuleSet.nestedObject, RuleSet.apply_null, firstReport_single rfl, Rule.apply,
      if_pos (mapping record)]
  rw [errors, errors, check, if_pos (isRecord _), reports, Value.field_single isStr, lift_ok,
    pure_bind, asked]
  simp only [reports, bind_map_left, map_bind, bind_assoc, pure_bind]
  refine bind_congr fun parts => ?_
  cases parts with
  | nil => rfl
  | cons part parts =>
    obtain ⟨key, report⟩ := part
    simp [Report.ofFields, Report.collapse, Report.toValue, Report.fieldValues,
      Value.reportedUnder, Value.under, Value.isTrue, Value.size?]

/-- One more field in front of a path leads to what the path leads to. -/
theorem Value.reportedUnder_cons (field : Value) (path : List Value) (errors : Value) :
    reportedUnder [field] (reportedUnder path errors) = reportedUnder (field :: path) errors := by
  unfold reportedUnder
  by_cases some : errors.isTrue
  · have there : (errors.under path).isTrue := by
      cases path with
      | nil => exact some
      | cons => rfl
    rw [if_pos some, if_pos there, if_pos some]
    rfl
  · rw [if_neg some, if_neg some]
    rfl

/-! ## Any number of steps -/

theorem Value.exists_under (path : List Value) (entries : List (Value × Value)) :
    ∃ outer, Value.under path (.dict entries) = .dict outer := by
  cases path with
  | nil => exact ⟨entries, rfl⟩
  | cons field path => exact ⟨[(field, .under path (.dict entries))], rfl⟩

theorem Value.reportedUnder_nil (entries : List (Value × Value)) :
    reportedUnder [] (.dict entries) = .dict entries := by
  cases entries <;> rfl

section Path

variable {path : List Value} (texts : ∀ field ∈ path, field.isStr)
include texts

/-- The record at the end of a path is checked as if it stood alone. -/
theorem Validator.errors_path (v : Validator) (record : List (Value × Value)) :
    (v.under path).errors (.under path (.dict record)) =
      Value.reportedUnder path <$> v.errors (.dict record) := by
  induction path with
  | nil =>
    rw [Validator.under, Value.under, errors, map_bind]
    refine bind_congr fun parts => ?_
    rw [map_pure, Report.toValue, Value.reportedUnder_nil]
  | cons field path ih =>
    obtain ⟨first, others⟩ := List.forall_mem_cons.1 texts
    obtain ⟨inner, shape⟩ := Value.exists_under path record
    rw [Validator.under, Value.under, shape, errors_object first, ← shape, ih others,
      Functor.map_map]
    simp only [Value.reportedUnder_cons]

end Path

namespace Registry

section Path

variable {g : Registry} (named : g.find? "nested_object" = some (.builtin .nestedObject))
  {source : List (Value × Value)} (distinct : Keyed.IsDistinct source)
include named distinct

/-- One more rule for a nested record in front of a path. -/
theorem build_nestedUnder (declared : List (Value × RuleSet)) (field : Value) (path : List Value) :
    g.build declared (.nestedUnder (field :: path) (.dict source)) =
      (fun v => .fields 0 (Keyed.put field (.nestedObject v) declared)) <$>
        g.build [] (.nestedUnder path (.dict source)) := by
  cases path with
  | nil => exact build_nestedObject named distinct declared field
  | cons => exact build_nestedObject named (Keyed.isDistinct_single _) declared field

/-- The ruleset at the end of a path becomes the validator at the end of the path. -/
theorem build_path (path : List Value) :
    g.build [] (.nestedUnder path (.dict source)) =
      Validator.under path <$> g.build [] (.dict source) := by
  induction path with
  | nil => exact (id_map _).symm
  | cons field path ih =>
    rw [build_nestedUnder named distinct, ih, Functor.map_map]
    rfl

end Path

/-- A ruleset at the end of a path of rules for nested records: its validator has rules for exactly
the fields of the ruleset, also where fields are declared for the record around it, and what it
reports of a record alone is reported, as it is, of the record at the end of the path. Where it
reports nothing, nothing is reported at all. -/
theorem errors_under (g : Registry) (path : List Value) (source : List (Value × Value))
    (v : Validator) (before : Ledger)
    (named : g.find? "nested_object" = some (.builtin .nestedObject))
    (texts : ∀ field ∈ path, field.isStr) (distinct : Keyed.IsDistinct source)
    (built : outcome (g.build [] (.dict source)) before = .ok v) :
    (∃ entries, v = .fields 0 entries ∧ entries.map (·.1) = source.map (·.1)) ∧
      outcome (g.build [] (.nestedUnder path (.dict source))) before = .ok (v.under path) ∧
      (∀ declared field rest, path = field :: rest →
        outcome (g.build declared (.nestedUnder path (.dict source))) before =
          .ok (.fields 0 (Keyed.put field (.nestedObject (v.under rest)) declared))) ∧
      ∀ record ledger errors, outcome (v.errors (.dict record)) ledger = .ok errors →
        outcome ((v.under path).errors (.under path (.dict record))) ledger =
          .ok (.reportedUnder path errors) := by
  refine ⟨(build_keys distinct).of_ok built, ?_, ?_, ?_⟩
  · rw [build_path named distinct, outcome_map, built]
    rfl
  · rintro declared field rest rfl
    rw [build_nestedUnder named distinct, outcome_map, build_path named distinct, outcome_map,
      built]
    rfl
  · intro record ledger errors reported
    rw [Validator.errors_path texts, outcome_map, reported]
    rfl

/-- A record two fields deep in which a text stands for a whole number, and the same record with a
whole number, of which nothing is reported. -/
theorem errors_under_pair :
    let g : Registry := {}
    let path := [Value.str "outer", .str "inner"]
    let source := [(Value.str "x", Value.str "integer")]
    let v := Validator.fields 0
      [(.str "x", .mk [.comparison { operator := .integer }] .null)]
    let reported (v : Value) := Value.dict [(.str "x", v)]
    g.find? "nested_object" = some (.builtin .nestedObject) ∧ (∀ field ∈ path, field.isStr) ∧
      Keyed.IsDistinct source ∧ outcome (g.build [] (.dict source)) {} = .ok v ∧
      outcome (g.build [] (.nestedUnder path (.dict source))) {} = .ok (v.under path) ∧
      outcome ((v.under path).errors (.under path (reported (.str "a")))) {} =
        .ok (.under path (reported (.str Code.notInteger))) ∧
      outcome ((v.under path).errors (.under path (reported (.int 1)))) {} = .ok (.dict []) := by
  intro g path source v reported
  have texts : ∀ field ∈ path, field.isStr := by simp [path, Value.isStr]
  have distinct : Keyed.IsDistinct source := Keyed.isDistinct_single _
  have integer : parseWithin g [] (g.deeper []) (.str "integer") =
      pure (.mk [.comparison { operator := .integer }] .null) :=
    parseWithin_name (b := .integer) rfl rfl rfl
  have built : outcome (g.build [] (.dict source)) {} = .ok v := by
    rw [build_distinct distinct, buildWithin_dict]
    simp [source, integer, v]
  obtain ⟨-, nested, -, errors⟩ := errors_under g path source v {} rfl texts distinct built
  exact ⟨rfl, texts, distinct, built, nested,
    errors _ {} (reported (.str Code.notInteger)) (by cbv), errors _ {} (.dict []) (by cbv)⟩

end Registry

end RecordCheck
