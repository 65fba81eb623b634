import RecordCheck.Proofs.Reading
import RecordCheck.Validation

/-!
# Records that agree

Rules are shown a whole record beside the value that they are about. Only a comparison with another
field reads it, and only the record whose fields the rules stand in: rules for nested records and
for lists start from the value. So a validator reads from a record its own fields and those that are
compared with, and reports the same about two records that agree on these, whatever else is in them.

## Main definitions

* `Rule.operands`, `RuleSet.operands`, `Validator.operands`: the fields that are compared with.
* `Value.AgreeOn`: records with the same values of some fields.

## Main statements

* `Rule.apply_of_agree`, `RuleSet.apply_of_agree`: rules read nothing but these fields.
* `Validator.check_of_agree`: validators read these, their own fields, and those that switches
  choose by.
* `Validator.errors_of_agree`: a validator that was built reports the same about records that agree.
-/
set_option autoImplicit false

namespace RecordCheck

open Act

/-! ## What is read from a record -/

/-- The field that a comparison is with. -/
def Comparison.operands (c : Comparison) : List Value :=
  match c.operator with
  | .sameAs => [c.operand]
  | _ => []

mutual

/-- The fields of its record that a rule compares a value with. -/
def Rule.operands : Rule → List Value
  | .comparison c => c.operands
  | .all _ s => s.operands
  | _ => []

@[inherit_doc Rule.operands]
def RuleSet.operands : RuleSet → List Value
  | .mk rules _ => ruleOperands rules

@[inherit_doc Rule.operands]
def ruleOperands : List Rule → List Value
  | [] => []
  | rule :: rules => rule.operands ++ ruleOperands rules

end

mutual

/-- The fields of a record that have rules, or that a validator is chosen by. -/
def Validator.fieldNames : Validator → List Value
  | .fields _ entries => entries.map (·.1)
  | .switch _ field cases => field :: caseFieldNames cases

@[inherit_doc Validator.fieldNames]
def caseFieldNames : List (Value × Validator) → List Value
  | [] => []
  | (_, v) :: cases => v.fieldNames ++ caseFieldNames cases

end

mutual

/-- The fields of a record that others are compared with. -/
def Validator.operands : Validator → List Value
  | .fields _ entries => entries.flatMap (·.2.operands)
  | .switch _ _ cases => caseOperands cases

@[inherit_doc Validator.operands]
def caseOperands : List (Value × Validator) → List Value
  | [] => []
  | (_, v) :: cases => v.operands ++ caseOperands cases

end

/-- Two records with the same values of the given fields. -/
structure Value.Agree (names : List Value) (r₁ r₂ : Value) : Prop where
  left : r₁.isRecord
  right : r₂.isRecord
  same : ∀ name ∈ names, r₁.field? name = r₂.field? name

section Agree

variable {r₁ r₂ : Value} {names more : List Value}

namespace Value

theorem Agree.mono (agree : Agree more r₁ r₂) (sub : names ⊆ more) : Agree names r₁ r₂ :=
  { agree with same := fun name member => agree.same name (sub member) }

/-- Records that agree on what two parts read agree on what either of them reads. -/
theorem Agree.halves {fields operands : List Value}
    (agree : Agree ((names ++ fields) ++ (more ++ operands)) r₁ r₂) :
    Agree (names ++ more) r₁ r₂ ∧ Agree (fields ++ operands) r₁ r₂ := by
  constructor <;> refine agree.mono fun _ => ?_ <;> simp only [List.mem_append] <;> tauto

theorem Agree.field (agree : Agree names r₁ r₂) {name : Value} (member : name ∈ names) :
    r₁.field name = r₂.field name := by
  rw [Value.field, Value.field, agree.same name member]

end Value

/-! ## Rules -/

namespace Comparison

/-- Only without a record another field counts as null. -/
theorem againstField_record {record : Value} (isRecord : record.isRecord) (field v : Value) :
    againstField field v record =
      match record.field? field with
      | none => .error .wrongType
      | some w => .ok (if v.strictlySame w then none else some Code.fieldsNotEqual) := by
  cases record with
  | null => cases isRecord
  | _ => rfl

theorem againstField_of_agree {field : Value} (agree : Value.Agree [field] r₁ r₂) (v : Value) :
    againstField field v r₁ = againstField field v r₂ := by
  rw [againstField_record agree.left, againstField_record agree.right, agree.same field (.head _)]

/-- A test with no other field to compare with reads nothing. -/
theorem judge_of_agree {c : Comparison} (agree : Value.Agree c.operands r₁ r₂) (v : Value) :
    c.judge v r₁ = c.judge v r₂ := by
  obtain ⟨operator, operand⟩ := c
  cases operator with
  | sameAs =>
    simp only [judge, onScalar]
    rw [againstField_of_agree agree v]
  | _ => rfl

theorem apply_of_agree {c : Comparison} (agree : Value.Agree c.operands r₁ r₂) (v : Value) :
    c.apply v r₁ = c.apply v r₂ := by
  have whole := judge_of_agree agree v
  obtain ⟨operator, operand⟩ := c
  unfold apply
  split
  -- operands that are streams are accepted values or bounds
  · next same _ => cases same; rfl
  · next same _ => cases same; rfl
  · rw [whole]

end Comparison

mutual

/-- A rule reads from its record the fields that it compares with. -/
theorem Rule.apply_of_agree : (r : Rule) → Value.Agree r.operands r₁ r₂ → (v : Value) →
    r.apply v r₁ = r.apply v r₂
  | .comparison c, agree, v => by rw [Rule.apply, Rule.apply, Comparison.apply_of_agree agree]
  | .all _ s, agree, v => by rw [Rule.apply, Rule.apply, RuleSet.apply_of_agree s agree]
  | .blank _, _, _ | .length _, _, _ | .shape _, _, _ | .pattern _, _, _ | .timezone _, _, _
  | .draft _, _, _ | .object .., _, _ | .listOf .., _, _ | .objects .., _, _ => by
    rw [Rule.apply, Rule.apply]

theorem RuleSet.apply_of_agree : (s : RuleSet) → Value.Agree s.operands r₁ r₂ → (v : Value) →
    s.apply v r₁ = s.apply v r₂
  | .mk rules _, agree, v => by
    rw [RuleSet.apply, RuleSet.apply, firstReport_of_agree rules agree]

theorem firstReport_of_agree : (rules : List Rule) → Value.Agree (ruleOperands rules) r₁ r₂ →
    (v : Value) → firstReport rules v r₁ = firstReport rules v r₂
  | [], _, _ => by rw [firstReport, firstReport]
  | rule :: rules, agree, v => by
    rw [firstReport, firstReport,
      Rule.apply_of_agree rule (agree.mono (List.subset_append_left _ _)) v,
      firstReport_of_agree rules (agree.mono (List.subset_append_right _ _)) v]

end

/-! ## Validators -/

/-- The rules for some fields read these and the fields that they compare with. -/
theorem reports_of_agree {entries : List (Value × RuleSet)}
    (agree : Value.Agree (entries.map (·.1) ++ entries.flatMap (·.2.operands)) r₁ r₂) :
    reports entries r₁ = reports entries r₂ := by
  induction entries with
  | nil => rw [reports, reports]
  | cons entry entries ih =>
    obtain ⟨field, rules⟩ := entry
    obtain ⟨first, others⟩ : Value.Agree ([field] ++ rules.operands) r₁ r₂ ∧
        Value.Agree (entries.map (·.1) ++ entries.flatMap (·.2.operands)) r₁ r₂ := agree.halves
    have own := rules.apply_of_agree (first.mono (List.subset_cons_self _ _))
    have rest := ih others
    rw [reports, reports, agree.field (.head _), rest]
    simp only [own]

mutual

/-- A validator reads from a record its fields and those that it compares with. -/
theorem Validator.check_of_agree : (v : Validator) →
    Value.Agree (v.fieldNames ++ v.operands) r₁ r₂ → v.check r₁ = v.check r₂
  | .fields _ entries, agree => by
    rw [Validator.check, Validator.check, if_pos agree.left, if_pos agree.right,
      reports_of_agree agree]
  | .switch _ field cases, agree => by
    rw [Validator.check, Validator.check, if_pos agree.left, if_pos agree.right,
      agree.field (.head _)]
    simp only [checkCase_of_agree cases (agree.mono (List.subset_cons_self _ _))]

theorem checkCase_of_agree : (cases : List (Value × Validator)) →
    Value.Agree (caseFieldNames cases ++ caseOperands cases) r₁ r₂ → {v : Value} →
    {missing : Error} → checkCase cases v r₁ missing = checkCase cases v r₂ missing
  | [], _, _, _ => by rw [checkCase, checkCase]
  | (_, validator) :: cases, agree, _, _ => by
    rw [caseFieldNames, caseOperands] at agree
    obtain ⟨first, others⟩ := agree.halves
    rw [checkCase, checkCase, Validator.check_of_agree validator first,
      checkCase_of_agree cases others]

end

/-- A validator that was built gives the same about two records that agree on the fields of its
ruleset and on those that these are compared with, from the same ledger: the same report, with its
fields in the same order, or the same error. -/
theorem Validator.errors_of_agree {g : Registry} {ruleset : Value} {v : Validator} {before : Ledger}
    (built : outcome (g.build [] ruleset) before = .ok v)
    (agree : Value.Agree (Registry.fieldsOf ruleset ++ v.operands) r₁ r₂) :
    v.errors r₁ = v.errors r₂ := by
  obtain ⟨entries, rfl, named⟩ := (Registry.build_fields ruleset).of_ok built
  have same := check_of_agree (.fields 0 entries) (agree.mono fun name member =>
    (List.mem_append.1 member).elim (fun own => List.mem_append_left _ (named.subset own))
      (List.mem_append_right _))
  rw [errors, errors, same]

end Agree

/-- A mapping, and an object with one attribute more and in another order. -/
theorem Validator.errors_of_agree_object :
    let ruleset := Value.dict [(.str "again", .dict [(.str "equal_to_field", .str "password")])]
    let v := Validator.fields 0
      [(.str "again", .mk [.comparison (.sameAs (.str "password"))] .null)]
    let r₁ := Value.dict [(.str "again", .str "old"), (.str "password", .str "new")]
    let r₂ := Value.object [("password", .str "new"), ("age", .int 7), ("again", .str "old")]
    outcome (({} : Registry).build [] ruleset) {} = .ok v ∧
      Value.Agree (Registry.fieldsOf ruleset ++ v.operands) r₁ r₂ ∧ v.errors r₁ = v.errors r₂ := by
  intro ruleset v r₁ r₂
  have known : ({} : Registry).find? (Call.mk "equal_to_field" (.str "password")).name =
      some (.builtin .equalToField) := rfl
  have built : outcome (({} : Registry).build [] ruleset) {} = .ok v := by
    rw [Registry.build, Registry.buildWithin_dict]
    simp [Registry.parseWithin_eq, Registry.callWithin, Registry.ruleWithin_eq,
      Registry.makeWithin_builtin known, Registry.completeWithin, Call.arguments, Builtin.make,
      Keyed.putAll, Keyed.put, v]
  have agree : Value.Agree (Registry.fieldsOf ruleset ++ v.operands) r₁ r₂ := by
    refine ⟨rfl, rfl, fun name member => ?_⟩
    have either : name = .str "again" ∨ name = .str "password" := by
      simpa [ruleset, v, Registry.fieldsOf, Validator.operands, RuleSet.operands, ruleOperands,
        Rule.operands, Comparison.operands, Comparison.sameAs] using member
    rcases either with rfl | rfl <;>
      simp [r₁, r₂, Value.field?, Value.isHashable, Keyed.find?, Value.same, Value.attribute?,
        List.lookup_cons]
  exact ⟨built, agree, Validator.errors_of_agree built agree⟩

end RecordCheck
