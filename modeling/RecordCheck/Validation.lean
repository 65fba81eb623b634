import RecordCheck.Report
import RecordCheck.Rule.Basic

/-!
# Validation

Rules are applied to a value of a record. A set of rules applies one rule after the other and stops
at the first report. Absent values are shown to the rules about them only. What a rule takes from a
stream is gone for those after it.

## Main definitions

* `Rule.apply`, `RuleSet.apply`: the report about a value, if there is one.
* `Validator.check`: what is reported about the fields of a record.
-/
set_option autoImplicit false

namespace RecordCheck

/-- The value of a record's field, or the fault that there can be no such field. -/
def Value.field (record name : Value) : Except Error Value :=
  match record.field? name with
  | some v => .ok v
  | none => .error .wrongType

/-- The entries of a list-like value, or what a stream has left. -/
def Value.entries (v : Value) : Act (Option (List Value)) :=
  if v.isCollection then some <$> v.walk else return none

/-- The report of a code. -/
def reportOf (code : Option String) : Option Report := code.map fun s => .ofCode (.str s)

/-- The code for a value that should be the id of a time zone. -/
def zoneCode? (zones : List Value) (v : Value) : Option String :=
  if !v.isStr then some Code.formatError
  else if zones.any fun zone => zone.same v then none else some Code.wrongTimezone

/-- What a set reports when one of its rules does. -/
def overridden (override : Value) (report : Report) : Report :=
  match override with
  | .null => report
  | code => .ofCode code

/-- What is reported about an entry that should be a record: an entry that is none gets a code. -/
def slotOf (errors : Act (List (Value × Report))) : Act (Option Report) :=
  tryCatch (Report.ofFields <$> errors) fun e =>
    match e with
    | .unvalidatable _ => return some (.code (.str Code.formatError))
    | e => throw e

mutual

/-- Reports about a value of a record, if there is anything to report. -/
def Rule.apply : Rule → Value → Value → Act (Option Report)
  | .blank test, v, _ => do return reportOf (← test.apply v)
  | .comparison c, v, record => do return reportOf (← c.apply v record)
  | .length l, v, _ => do return reportOf (← l.apply v)
  | .shape test, v, _ => do return reportOf (← test.apply v)
  | .pattern m, v, _ => do return (← m.apply v).map .ofCode
  | .timezone zones, v, _ => return reportOf (zoneCode? zones v)
  | .draft _, _, _ => throw .draft
  | .object _ _ validator, v, _ =>
    if v.isMapping then Report.ofFields <$> validator.check v
    else return reportOf (some Code.formatError)
  | .listOf _ _ entryField rules, v, _ => do
    match ← v.entries with
    | none => return reportOf (some Code.formatError)
    | some entries =>
      let slots ← entries.mapM fun entry => do
        let report ← rules.apply entry (.dict [(.str entryField, entry)])
        return report.map Report.collapse
      return Report.ofSlots slots
  | .objects _ _ validator, v, _ => do
    match ← v.entries with
    | none => return reportOf (some Code.formatError)
    | some entries =>
      let slots ← entries.mapM fun entry => slotOf (validator.check entry)
      return Report.ofSlots slots
  | .all _ rules, v, record => rules.apply v record

/-- Reports what a set of rules has to report about a value of a record, if anything. -/
def RuleSet.apply : RuleSet → Value → Value → Act (Option Report)
  | .mk rules override, v, record => do
    return (← firstReport rules v record).map (overridden override)

/-- The report of the first rule that has one. Absent values are shown only to rules that see
them. -/
def firstReport : List Rule → Value → Value → Act (Option Report)
  | [], _, _ => return none
  | rule :: rules, v, record =>
    if v.isAbsent && !rule.seesAbsent then firstReport rules v record
    else do
      match ← rule.apply v record with
      | some report => return some report
      | none => firstReport rules v record

/-- What is reported about the fields of a record, in the order of the validator. -/
def Validator.check : Validator → Value → Act (List (Value × Report))
  | .fields _ entries, record =>
    if record.isRecord then reports entries record else throw (.unvalidatable record.kind)
  | .switch _ field cases, record =>
    if record.isRecord then do
      let v ← record.field field
      let missing := Error.ofMissingCase field v
      if v.isHashable then checkCase cases v record missing else throw missing
    else throw (.unvalidatable record.kind)

/-- What is reported about the given fields of a record. -/
def reports : List (Value × RuleSet) → Value → Act (List (Value × Report))
  | [], _ => return []
  | (field, rules) :: entries, record => do
    let v ← record.field field
    let report ← rules.apply v record
    let rest ← reports entries record
    return match report with
      | some r => (field, r.collapse) :: rest
      | none => rest

/-- What the validator for a value reports about a record; without one, an error. -/
def checkCase : List (Value × Validator) → Value → Value → Error → Act (List (Value × Report))
  | [], _, _, missing => throw missing
  | (key, validator) :: cases, v, record, missing =>
    if key.same v then validator.check record else checkCase cases v record missing

end

/-- The validator that a switch chooses for a record. -/
def Validator.choose (field : Value) (cases : List (Value × Validator)) (record : Value) :
    Except Error Validator := do
  let v ← record.field field
  match if v.isHashable then Keyed.find? v cases else none with
  | some validator => return validator
  | none => throw (Error.ofMissingCase field v)

/-- What a validator reports about a record as a mapping. -/
def Validator.errors (validator : Validator) (record : Value) : Act Value := do
  return (Report.fields (← validator.check record)).toValue

/-- Fails when something is reported about a record. -/
def Validator.assertValid (validator : Validator) (record : Value) : Act Unit := do
  let errors ← validator.errors record
  if errors.isTrue then throw (Error.ofReport errors)

end RecordCheck
