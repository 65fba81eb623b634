import RecordCheck.Json.Printer
import RecordCheck.Value.Attributes
import RecordCheck.Value.Equality
import RecordCheck.Value.Printing

/-!
# Errors

What can go wrong when rules are registered, described, built and applied. Invalid input is no
error: it is reported. Each error is a cause; its class and its message are computed from the cause.
Faults that come from the misuse of a value, such as a wrong number of arguments, have a class only.

## Main definitions

* `Error`: the causes.
* `Error.kind`, `ErrorKind.families`: the class of an error and the wider classes it belongs to.
* `Error.message?`: the message.
-/
set_option autoImplicit false

namespace RecordCheck

/-- The classes of errors that concern rules. -/
inductive RuleErrorKind where
  | general | registration | unknownRule | definition | draft | unvalidatable | noCase | invalid
deriving DecidableEq, Repr

/-- The classes of faults that any computation may run into. -/
inductive FaultKind where
  | wrongType | badValue | badText | missingAttribute | missingKey | tooLarge | badPattern | endless
  | failedLookup | runtime | internal | invalidSettings
deriving DecidableEq, Repr

/-- The class of an error. -/
inductive ErrorKind where
  | rule (kind : RuleErrorKind)
  | fault (kind : FaultKind)
deriving DecidableEq, Repr

/-- The wider class of faults that a class of rule errors also belongs to. -/
def RuleErrorKind.family? : RuleErrorKind → Option FaultKind
  | .general => none
  | .registration | .definition | .unvalidatable => some .wrongType
  | .unknownRule | .noCase => some .failedLookup
  | .draft => some .runtime
  | .invalid => some .badValue

/-- The causes of errors. -/
inductive Error where
  /-- What is registered as a rule cannot be called to make one. -/
  | notCallable
  /-- A name is taken, and rules may not be replaced. -/
  | alreadyRegistered (name : String)
  /-- The name of an alias is no text or blank. -/
  | aliasWithoutName
  /-- The rules of an alias are empty. -/
  | aliasWithoutRules (name : String)
  /-- No rule has the name. -/
  | unknownRule (name : String)
  /-- A description is neither a name nor a mapping nor a list. -/
  | descriptionShape (kind : Kind)
  /-- A ruleset is no mapping. -/
  | rulesetShape (kind : Kind)
  /-- A mapping of rule names to arguments has a key that is no text. -/
  | ruleNameShape (shown : String)
  /-- A set of rules is made from something that is no rule. -/
  | memberShape (kind : Kind)
  /-- What was registered as a rule made something else. -/
  | madeNoRule
  /-- A limit is no number. -/
  | limitShape (rule shown : String)
  /-- An unfinished rule was applied. -/
  | draft
  /-- Something that is no record was validated. -/
  | unvalidatable (kind : Kind)
  /-- A switch has no case for the value of its field. -/
  | noCase (field value : Value)
  /-- A record failed validation where that is an error; the report tells why. -/
  | invalid (errors : Value)
  /-- An error with a message of the caller's own. -/
  | stated (kind : RuleErrorKind) (message : String)
  /-- Letters that are no pattern flags, in the order of their code points. -/
  | unsupportedFlags (letters : String)
  /-- A rule was put together with an operator that it does not know. -/
  | unknownOperator (family operator : String)
  /-- A nested rule was given something else than a mapping. -/
  | mappingExpected (rule : String) (kind : Kind)
  /-- A fault without a message of this library. -/
  | fault (kind : FaultKind)
deriving Repr

namespace Error

def wrongType : Error := .fault .wrongType

def badValue : Error := .fault .badValue

def missingAttribute : Error := .fault .missingAttribute

/-- The fault of a value that is asked for a method which values of its kind do not have. An
attribute of that name can still have been given to it, but it is no method. -/
def ofMissingMethod (v : Value) (name : String) : Error :=
  if (v.attribute? name).isSome then wrongType else missingAttribute

def missingKey : Error := .fault .missingKey

/-- Something is nested too deep, or following names in a description never ends. -/
def endless : Error := .fault .endless

/-- The error of a value that has no JSON text. -/
def ofUnprintable : Json.Unprintable → Error
  | .kind => wrongType
  | .tooManyDigits => badValue

/-- The text of a value, or the error that it has none. -/
def textOf (v : Value) : Except Error String :=
  match v.text? with
  | some t => .ok t
  | none => .error badValue

/-- The quoted text of a value, or the error that it has none. -/
def quotedOf (v : Value) : Except Error String :=
  match v.quoted? with
  | some t => .ok t
  | none => .error badValue

/-- The JSON text of a value, or the error that it has none. -/
def jsonOf (v : Value) : Except Error String := (Json.print v).mapError ofUnprintable

/-- A missing case; its message needs the texts of the field and of the value. -/
def ofMissingCase (field value : Value) : Error :=
  match textOf field, textOf value with
  | .ok _, .ok _ => .noCase field value
  | _, _ => badValue

/-- A failed validation; its message needs the JSON text of the report. -/
def ofReport (errors : Value) : Error :=
  match jsonOf errors with
  | .ok _ => .invalid errors
  | .error e => e

/-- The entry that a pair is: the members of anything that has two of them. -/
def entryOf (pair : Value) : Except Error (Value × Value) :=
  match pair.members? with
  | some [key, v] => if key.isHashable then .ok (key, v) else .error wrongType
  | some _ => .error badValue
  | none => .error wrongType

/-- A value as a mapping: a mapping itself, or the entries that its members are. -/
def mappingOf (v : Value) : Except Error Value :=
  match v, v.members? with
  | .dict entries, _ => .ok (.dict entries)
  | _, some members => (members.mapM entryOf).map Value.ofEntries
  | _, none => .error wrongType

def kind : Error → ErrorKind
  | .notCallable | .alreadyRegistered _ | .aliasWithoutName | .aliasWithoutRules _ =>
    .rule .registration
  | .unknownRule _ => .rule .unknownRule
  | .descriptionShape _ | .rulesetShape _ | .ruleNameShape _ | .memberShape _ | .madeNoRule
  | .limitShape .. => .rule .definition
  | .draft => .rule .draft
  | .unvalidatable _ => .rule .unvalidatable
  | .noCase .. => .rule .noCase
  | .invalid _ => .rule .invalid
  | .stated kind _ => .rule kind
  | .unsupportedFlags _ | .unknownOperator .. => .fault .badValue
  | .mappingExpected .. => .fault .wrongType
  | .fault kind => .fault kind

/-- The message of an error; faults have none. -/
def message? : Error → Option String
  | .notCallable => some "Values passed to register must be callable"
  | .alreadyRegistered name => some ("Rule already registered with name: " ++ name)
  | .aliasWithoutName => some "Aliases require a non-empty name"
  | .aliasWithoutRules name => some ("Alias '" ++ name ++ "' requires rules")
  | .unknownRule name => some ("No rule registered with name: " ++ name)
  | .descriptionShape kind => some ("Rules must be a name, a mapping or a list, got " ++ kind.name)
  | .rulesetShape kind => some ("A ruleset must map field names to rules, got " ++ kind.name)
  | .ruleNameShape shown => some ("Rule names must be strings, got " ++ shown)
  | .memberShape kind => some ("Only Rule objects are allowed, got " ++ kind.name)
  | .madeNoRule => some "Definitions must return Rule objects"
  | .limitShape rule shown => some (rule ++ " expects a number, got " ++ shown)
  | .draft =>
    some "This rule is a Draft. Try calling the 'finish' method to get the full Rule."
  | .unvalidatable kind => some ("Unable to validate provided " ++ kind.name ++ " value")
  | .noCase field value => some ("No validator found for [" ++ (field.text?.getD "") ++ "] of '" ++
      (value.text?.getD "") ++ "'")
  | .invalid errors => some ("Validation failed: " ++ (jsonOf errors).toOption.getD "")
  | .stated _ message => some message
  | .unsupportedFlags letters => some ("Unsupported regex flags: " ++ letters)
  | .unknownOperator family operator =>
    some ("Unknown " ++ family ++ " operator: " ++ operator)
  | .mappingExpected rule kind => some (rule ++ " expects a mapping, got " ++ kind.name)
  | .fault _ => none

/-- The error of a class made from the arguments that its maker is called with. Three classes take
arguments of a fixed number and word their message; the others show what they are given. -/
def make (kind : RuleErrorKind) (args : List Value) : Except Error Error :=
  match kind, args with
  | .unknownRule, [name] => (textOf name).map .unknownRule
  | .unknownRule, _ => .error wrongType
  | .noCase, [field, value] => .ok (ofMissingCase field value)
  | .noCase, _ => .error wrongType
  | .invalid, [errors] => .ok (ofReport errors)
  | .invalid, _ => .error wrongType
  | _, [] => .ok (.stated kind "")
  | _, [arg] => (textOf arg).map (.stated kind)
  | _, args => (quotedOf (.tuple args)).map (.stated kind)

end Error

end RecordCheck
