import RecordCheck.Proofs.Asking
import RecordCheck.Session

/-!
# Serial numbers

A session hands out serial numbers to the validators and sets in what it keeps. They tell things
with the same parts apart, and do nothing else: a rule is the same with and without them, and it
reports the same.

## Main definitions

* `Rule.unnumbered`, `RuleSet.unnumbered`, `Validator.unnumbered`: what is left without serial
  numbers.

## Main statements

* `RuleSet.unnumbered_number`, `Validator.unnumbered_number`: handing out serial numbers changes
  nothing else.
* `RuleSet.apply_unnumbered`, `Validator.check_unnumbered`: serial numbers make no difference to
  what is reported.
-/
set_option autoImplicit false

namespace RecordCheck

mutual

/-- A rule without the serial numbers of the validators and sets in it. -/
def Rule.unnumbered : Rule → Rule
  | .object field entryField v => .object field entryField v.unnumbered
  | .listOf field _ entryField rules => .listOf field 0 entryField rules.unnumbered
  | .objects field entryField v => .objects field entryField v.unnumbered
  | .all _ rules => .all 0 rules.unnumbered
  | rule => rule

def RuleSet.unnumbered : RuleSet → RuleSet
  | .mk rules override => .mk (unnumberedRules rules) override

def unnumberedRules : List Rule → List Rule
  | [] => []
  | rule :: rules => rule.unnumbered :: unnumberedRules rules

/-- A validator without the serial numbers of itself and of what is in it. -/
def Validator.unnumbered : Validator → Validator
  | .fields _ entries => .fields 0 (unnumberedFields entries)
  | .switch _ field cases => .switch 0 field (unnumberedCases cases)

def unnumberedFields : List (Value × RuleSet) → List (Value × RuleSet)
  | [] => []
  | (field, rules) :: entries => (field, rules.unnumbered) :: unnumberedFields entries

def unnumberedCases : List (Value × Validator) → List (Value × Validator)
  | [] => []
  | (key, v) :: cases => (key, v.unnumbered) :: unnumberedCases cases

end

/-! ## Handing out serial numbers -/

mutual

/-- Handing out serial numbers changes nothing else in a rule. -/
theorem Rule.unnumbered_number : (rule : Rule) → (ledger : Ledger) →
    (rule.number.run ledger).1.unnumbered = rule.unnumbered
  | .object field entryField v, ledger =>
    congrArg (Rule.object field entryField) (v.unnumbered_number ledger)
  | .listOf field serial entryField rules, ledger =>
    congrArg (Rule.listOf field 0 entryField)
      (rules.unnumbered_number ((serialOr serial).run ledger).2)
  | .objects field entryField v, ledger =>
    congrArg (Rule.objects field entryField) (v.unnumbered_number ledger)
  | .all serial rules, ledger =>
    congrArg (Rule.all 0) (rules.unnumbered_number ((serialOr serial).run ledger).2)
  | .blank _, _ | .comparison _, _ | .length _, _ | .shape _, _ | .pattern _, _ | .timezone _, _
  | .draft _, _ => rfl

theorem RuleSet.unnumbered_number : (s : RuleSet) → (ledger : Ledger) →
    (s.number.run ledger).1.unnumbered = s.unnumbered
  | .mk rules override, ledger =>
    congrArg (RuleSet.mk · override) (unnumbered_numberRules rules ledger)

theorem unnumbered_numberRules : (rules : List Rule) → (ledger : Ledger) →
    unnumberedRules ((numberRules rules).run ledger).1 = unnumberedRules rules
  | [], _ => rfl
  | rule :: rules, ledger =>
    congrArg₂ List.cons (rule.unnumbered_number ledger)
      (unnumbered_numberRules rules (rule.number.run ledger).2)

theorem Validator.unnumbered_number : (v : Validator) → (ledger : Ledger) →
    (v.number.run ledger).1.unnumbered = v.unnumbered
  | .fields serial entries, ledger =>
    congrArg (Validator.fields 0)
      (unnumbered_numberFields entries ((serialOr serial).run ledger).2)
  | .switch serial field cases, ledger =>
    congrArg (Validator.switch 0 field)
      (unnumbered_numberCases cases ((serialOr serial).run ledger).2)

theorem unnumbered_numberFields : (entries : List (Value × RuleSet)) → (ledger : Ledger) →
    unnumberedFields ((numberFields entries).run ledger).1 = unnumberedFields entries
  | [], _ => rfl
  | (field, rules) :: entries, ledger =>
    congrArg₂ List.cons (congrArg (Prod.mk field) (rules.unnumbered_number ledger))
      (unnumbered_numberFields entries (rules.number.run ledger).2)

theorem unnumbered_numberCases : (cases : List (Value × Validator)) → (ledger : Ledger) →
    unnumberedCases ((numberCases cases).run ledger).1 = unnumberedCases cases
  | [], _ => rfl
  | (key, v) :: cases, ledger =>
    congrArg₂ List.cons (congrArg (Prod.mk key) (v.unnumbered_number ledger))
      (unnumbered_numberCases cases (v.number.run ledger).2)

end

theorem Rule.seesAbsent_unnumbered (rule : Rule) :
    rule.unnumbered.seesAbsent = rule.seesAbsent := by
  cases rule <;> rfl

mutual

/-- Serial numbers make no difference to what a rule reports. -/
theorem Rule.apply_unnumbered : (rule : Rule) → (v record : Value) →
    rule.unnumbered.apply v record = rule.apply v record
  | .object _ _ validator, v, _ => by
    rw [Rule.unnumbered, Rule.apply, Rule.apply, validator.check_unnumbered v]
  | .listOf _ _ _ rules, v, record => by
    rw [Rule.unnumbered, Rule.apply_listOf, Rule.apply_listOf]
    simp only [rules.apply_unnumbered]
  | .objects _ _ validator, v, record => by
    rw [Rule.unnumbered, Rule.apply_objects, Rule.apply_objects]
    simp only [validator.check_unnumbered]
  | .all _ rules, v, record => rules.apply_unnumbered v record
  | .blank _, _, _ | .comparison _, _, _ | .length _, _, _ | .shape _, _, _ | .pattern _, _, _
  | .timezone _, _, _ | .draft _, _, _ => rfl

theorem RuleSet.apply_unnumbered : (s : RuleSet) → (v record : Value) →
    s.unnumbered.apply v record = s.apply v record
  | .mk rules override, v, record => by
    rw [RuleSet.unnumbered, RuleSet.apply, RuleSet.apply, firstReport_unnumbered rules v record]

theorem firstReport_unnumbered : (rules : List Rule) → (v record : Value) →
    firstReport (unnumberedRules rules) v record = firstReport rules v record
  | [], _, _ => rfl
  | rule :: rules, v, record => by
    rw [unnumberedRules, firstReport, firstReport, rule.seesAbsent_unnumbered,
      rule.apply_unnumbered v record, firstReport_unnumbered rules v record]

theorem Validator.check_unnumbered : (v : Validator) → (record : Value) →
    v.unnumbered.check record = v.check record
  | .fields _ entries, record => by
    rw [Validator.unnumbered, Validator.check, Validator.check, reports_unnumbered entries record]
  | .switch _ field cases, record => by
    rw [Validator.unnumbered, Validator.check, Validator.check]
    simp only [checkCase_unnumbered cases]

theorem reports_unnumbered : (entries : List (Value × RuleSet)) → (record : Value) →
    reports (unnumberedFields entries) record = reports entries record
  | [], _ => rfl
  | (field, rules) :: entries, record => by
    simp only [unnumberedFields, reports, rules.apply_unnumbered, reports_unnumbered entries record]

theorem checkCase_unnumbered : (cases : List (Value × Validator)) → (v record : Value) →
    (missing : Error) → checkCase (unnumberedCases cases) v record missing =
      checkCase cases v record missing
  | [], _, _, _ => rfl
  | (key, validator) :: cases, v, record, missing => by
    rw [unnumberedCases, checkCase, checkCase, validator.check_unnumbered record,
      checkCase_unnumbered cases v record missing]

end

end RecordCheck
