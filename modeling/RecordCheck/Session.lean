import RecordCheck.Rule.Fingerprint
import RecordCheck.Settings.Form
import RecordCheck.Validation

/-!
# Sessions

A session is a registry, the fields that have been declared for the next validator, and the rules
and validators that have been kept under names. Commands change it or ask about it. The values in a
command are new to the session: their streams have not been touched, and their NaNs are no others. A
rule or a validator that is new in a session gets serial numbers for the validators and the sets in
it, so that they can be told from others with the same parts.

## Main definitions

* `Session`, `Session.Kept`: the state, and what is kept under a name.
* `Command`, `Answer`: what can be asked for, and what comes back.
* `Session.run`: what a command does.
-/
set_option autoImplicit false

namespace RecordCheck

/-! ## Serial numbers -/

/-- Steps that hand out serial numbers. -/
abbrev Numbered := StateM Ledger

/-- The serial number of something, or a new one where it has none yet. -/
def serialOr (serial : Nat) : Numbered Nat :=
  if serial == 0 then Value.freshSerial else return serial

mutual

/-- The rule with serial numbers for all validators and sets in it. -/
def Rule.number : Rule → Numbered Rule
  | .object field entryField v => do return .object field entryField (← v.number)
  | .listOf field serial entryField rules => do
    return .listOf field (← serialOr serial) entryField (← rules.number)
  | .objects field entryField v => do return .objects field entryField (← v.number)
  | .all serial rules => do return .all (← serialOr serial) (← rules.number)
  | rule => return rule

def RuleSet.number : RuleSet → Numbered RuleSet
  | .mk rules override => do return .mk (← numberRules rules) override

def numberRules : List Rule → Numbered (List Rule)
  | [] => return []
  | rule :: rules => do
    let numbered ← rule.number
    return numbered :: (← numberRules rules)

/-- The validator with serial numbers for itself and all validators in it. -/
def Validator.number : Validator → Numbered Validator
  | .fields serial entries => do return .fields (← serialOr serial) (← numberFields entries)
  | .switch serial field cases => do
    return .switch (← serialOr serial) field (← numberCases cases)

def numberFields : List (Value × RuleSet) → Numbered (List (Value × RuleSet))
  | [] => return []
  | (field, rules) :: entries => do
    let numbered ← rules.number
    return (field, numbered) :: (← numberFields entries)

def numberCases : List (Value × Validator) → Numbered (List (Value × Validator))
  | [] => return []
  | (key, v) :: cases => do
    let numbered ← v.number
    return (key, numbered) :: (← numberCases cases)

end

/-! ## State -/

/-- What a name stands for in a session: nothing, a rule or a validator. -/
inductive Session.Kept where
  | nothing
  | rule (r : Rule)
  | validator (v : Validator)

structure Session where
  registry : Registry := {}
  declared : List (Value × RuleSet) := []
  kept : List (String × Session.Kept) := []
  ledger : Ledger := {}

/-- What can be given a name to be registered under: a recipe to which the arguments are added, a
call that makes a value instead of a rule, or a value that cannot be called. -/
inductive Session.Offer where
  | recipe (r : Recipe)
  | makesValue
  | isValue

/-- The definition that an offer amounts to. -/
def Session.Offer.definition? : Session.Offer → Option Definition
  | .recipe r => some (.custom fun arguments => some <$> r.make arguments)
  | .makesValue => some (.custom fun _ => return none)
  | .isValue => none

namespace Session.Kept

/-- The name of the kind of what is kept. -/
def kindName : Kept → String
  | .nothing => Kind.null.name
  | .rule r => r.familyName
  | .validator v => v.kindName

def text? : Kept → Option String
  | .nothing => Value.null.quoted?
  | .rule r => r.text?
  | .validator v => v.text?

/-- Whether two kept things are the same. -/
def same : Kept → Kept → Bool
  | .nothing, .nothing => true
  | .rule (.all _ a), .rule (.all _ b) => Rule.sameSet a b
  | .rule a, .rule b => a.same b
  | .validator a, .validator b => a.serial == b.serial
  | _, _ => false

def fingerprint? : Kept → Option Fingerprint
  | .nothing => some .null
  | .rule r => Fingerprint.ofRule r
  | .validator v => some (.validator v.serial)

/-- The kept validator; other things cannot validate. -/
def asValidator : Kept → Except Error Validator
  | .validator v => .ok v
  | _ => .error .missingAttribute

/-- The kept rule; other things cannot be applied. -/
def asRule : Kept → Except Error Rule
  | .rule r => .ok r
  | _ => .error .missingAttribute

/-- The kept set of rules. -/
def asRuleSet : Kept → Except Error RuleSet
  | .rule (.all _ rules) => .ok rules
  | _ => .error .missingAttribute

end Session.Kept

/-! ## Commands -/

/-- Commands that make something new out of a description, of a call, or of what is kept. -/
inductive Session.Making where
  | parse (rules : Value)
  | rulesFor (rule argument : Value)
  | call (name argument : Value)
  | make (recipe : Recipe)
  | finish (name : String)
  | merge (name other : String)
  | withOverride (name : String) (override : Value)
  | build (ruleset : Value)
  | switch (field rulesets : Value)
  | fields (entries : List (Value × String))
  | cases (field : Value) (entries : List (Value × String))
  | rulesOf (name : String) (field : Value)
  | caseOf (name : String) (case : Value)

/-- Commands. -/
inductive Session.Command where
  | restart (settings : Option Value)
  | register (offers : List (String × Offer))
  | registerAlias (name rules override : Value)
  | names
  | contains (name : Value)
  | clearFields
  | declare (field : Value) (rules : List Value)
  | keep (name : String) (making : Making)
  | validate (name : String) (record : Value)
  | assertValid (name : String) (record : Value)
  | choose (name : String) (record : Value)
  | fieldNames (name : String)
  | switchInfo (name : String)
  | apply (name : String) (v record : Value)
  | info (name : String)
  | text (name : String)
  | isFinished (name : String)
  | same (name other : String)
  | sameValue (name : String) (v : Value)
  | sameFingerprint (name other : String)
  | isAssociative (v : Value)

/-- Entries with new values for their keys. -/
def Session.renewedKeys (entries : List (Value × String)) : Numbered (List (Value × String)) :=
  entries.mapM fun (key, name) => do return (← key.renewed, name)

/-- A making whose values have serial numbers of their own. The values of a recipe get theirs when
it is used. -/
def Session.Making.renewed : Making → Numbered Making
  | .parse rules => do return .parse (← rules.renewed)
  | .rulesFor rule argument => do return .rulesFor (← rule.renewed) (← argument.renewed)
  | .call name argument => do return .call (← name.renewed) (← argument.renewed)
  | .withOverride name override => do return .withOverride name (← override.renewed)
  | .build ruleset => do return .build (← ruleset.renewed)
  | .switch field rulesets => do return .switch (← field.renewed) (← rulesets.renewed)
  | .fields entries => do return .fields (← renewedKeys entries)
  | .cases field entries => do return .cases (← field.renewed) (← renewedKeys entries)
  | .rulesOf name field => do return .rulesOf name (← field.renewed)
  | .caseOf name case => do return .caseOf name (← case.renewed)
  | making => return making

/-- A command whose values have serial numbers of their own. -/
def Session.Command.renewed : Command → Numbered Command
  | .restart (some settings) => do return .restart (some (← settings.renewed))
  | .registerAlias name rules override => do
    return .registerAlias name (← rules.renewed) (← override.renewed)
  | .declare field rules => do return .declare (← field.renewed) (← Value.renewedAll rules)
  | .keep name making => do return .keep name (← making.renewed)
  | .validate name record => do return .validate name (← record.renewed)
  | .assertValid name record => do return .assertValid name (← record.renewed)
  | .choose name record => do return .choose name (← record.renewed)
  | .apply name v record => do return .apply name (← v.renewed) (← record.renewed)
  | command => return command

/-- What comes back from a command. -/
inductive Session.Answer where
  | value (v : Value)
  | names (all : List String)
  | text (t : String)
  | errors (report : Value)
  | kept (kindName : String) (isSame : Bool)
  | switchOn (field : Value) (cases : List Value)
  | rules (texts : List String) (override : Value)

/-- The outcome of a command: an answer or an error, and the warnings on the way. -/
structure Session.Outcome where
  result : Except Error Session.Answer
  warnings : List String := []

namespace Session

/-- What is kept under a name. -/
def get (s : Session) (name : String) : Kept := (s.kept.lookup name).getD .nothing

/-- Keeps something under a name. -/
def set (s : Session) (name : String) (kept : Kept) : Session :=
  { s with kept := (name, kept) :: s.kept }

/-- Runs a step that hands out serial numbers. -/
def numbering {α : Type} (s : Session) (step : Numbered α) : α × Session :=
  let (a, ledger) := step.run s.ledger
  (a, { s with ledger })

/-- Runs an action. What it has taken from streams is gone even if it fails. -/
def perform {α : Type} (s : Session) (act : Act α) : Except Error α × Session :=
  s.numbering act.run

/-- The text of something, unless a number in it has too many digits. -/
def textOr (t : Option String) : Except Error String :=
  match t with
  | some t => .ok t
  | none => .error .badValue

/-- Makes a rule of the registry by a call, and does not finish it. -/
def callRule (s : Session) (name argument : Value) : Act Rule :=
  match name with
  | .str n => s.registry.make ⟨n, argument⟩
  | v => do
    if !v.isHashable then throw .wrongType
    throw (.unknownRule (← Error.textOf v))

/-- The entry with a key; what cannot be a key is a fault. -/
def entryFor {α : Type} (entries : List (Value × α)) (key : Value) : Except Error α :=
  if !key.isHashable then .error .wrongType
  else match Keyed.find? key entries with
    | some a => .ok a
    | none => .error .missingKey

/-- What a making makes, and whether it is what was kept already. -/
def makeKept (s : Session) : Making → Act (Kept × Bool)
  | .parse rules => do return (.rule (.all 0 (← s.registry.parse rules)), false)
  | .rulesFor rule argument => do
    return (.rule (.all 0 (← s.registry.rulesFor rule argument)), false)
  | .call name argument => do return (.rule (← s.callRule name argument), false)
  | .make recipe => do return (.rule (← recipe.make []), false)
  | .finish name => do
    let rule ← (s.get name).asRule
    return (.rule (← rule.finish s.registry), !rule.isDraft)
  | .merge name other => do
    let rules ← (s.get name).asRuleSet
    return (.rule (.all 0 (rules.merge (← (s.get other).asRuleSet))), false)
  | .withOverride name override => do
    return (.rule (.all 0 ((← (s.get name).asRuleSet).withOverride override)), false)
  | .build ruleset => do return (.validator (← s.registry.build s.declared ruleset), false)
  | .switch field rulesets => do
    return (.validator (← s.registry.switch s.declared field rulesets), false)
  | .fields entries => do
    let rules ← entries.mapM fun (field, name) => do
      if !field.isHashable then throw .wrongType
      return (field, ← (s.get name).asRuleSet)
    return (.validator (.fields 0 (Keyed.putAll [] rules)), false)
  | .cases field entries => do
    let validators ← entries.mapM fun (key, name) => do
      if !key.isHashable then throw .wrongType
      return (key, ← (s.get name).asValidator)
    return (.validator (.switch 0 field (Keyed.putAll [] validators)), false)
  | .rulesOf name field => do
    match ← (s.get name).asValidator with
    | .fields _ entries => return (.rule (.all 0 (← entryFor entries field)), false)
    | .switch .. => throw .missingAttribute
  | .caseOf name key => do
    match ← (s.get name).asValidator with
    | .switch _ _ cases => return (.validator (← entryFor cases key), false)
    | .fields .. => throw .missingAttribute

/-- Gives serial numbers to what is kept. -/
def Kept.number : Kept → Numbered Kept
  | .nothing => return .nothing
  | .rule r => do return .rule (← r.number)
  | .validator v => do return .validator (← v.number)

/-- Answers a command that changes nothing. -/
def ask (s : Session) : Command → Act Answer
  | .names => return .names s.registry.names
  | .contains name =>
    match name with
    | .str n => return .value (.bool (s.registry.contains n))
    | v => if v.isHashable then return .value (.bool false) else throw .wrongType
  | .validate name record => do
    return .errors (← (← (s.get name).asValidator).errors record)
  | .assertValid name record => do
    (← (s.get name).asValidator).assertValid record
    return .value .null
  | .choose name record => do
    match ← (s.get name).asValidator with
    | .switch _ field cases =>
      return .text (← textOr (← Validator.choose field cases record).text?)
    | .fields .. => throw .missingAttribute
  | .fieldNames name => do
    match (← (s.get name).asValidator).fieldNames? with
    | some fields => return .value (.list fields)
    | none => throw .missingAttribute
  | .switchInfo name => do
    match (← (s.get name).asValidator).switchOn? with
    | some (field, cases) => return .switchOn field cases
    | none => throw .missingAttribute
  | .apply name v record => do
    let report ← (← (s.get name).asRule).apply v record
    return .value ((report.map Report.toValue).getD .null)
  | .info name =>
    match s.get name with
    | .rule (.all _ rules) => do
      return .rules (← rules.rules.mapM fun rule => textOr rule.text?) rules.override
    | _ => throw .wrongType
  | .text name => do return .text (← textOr (s.get name).text?)
  | .isFinished name =>
    match s.get name with
    | .rule (.draft _) => return .value (.bool false)
    | .rule (.object ..) | .rule (.listOf ..) | .rule (.objects ..) => return .value (.bool true)
    | _ => throw .missingAttribute
  | .same name other => return .value (.bool ((s.get name).same (s.get other)))
  | .sameValue name v =>
    match s.get name with
    | .nothing => return .value (.bool (Value.null.same v))
    | _ => return .value (.bool false)
  | .sameFingerprint name other =>
    match (s.get name).fingerprint?, (s.get other).fingerprint? with
    | some a, some b => return .value (.bool (a.agree b))
    | _, _ => throw .wrongType
  | .isAssociative v => return .value (.bool v.isAssociative)
  | _ => return .value (.bool true)

/-- The session with another registry, and the outcome of registering. -/
def registered (s : Session) (answer : Answer) (r : Registered) : Session × Outcome :=
  ({ s with registry := r.registry },
    ⟨match r.failure with
      | some e => .error e
      | none => .ok answer, r.warnings⟩)

/-- A new registry with the given settings, if any; the old one stays if they do not make one. -/
def restart (s : Session) (settings : Option Value) : Session × Outcome :=
  let started : Except Error Registered := match settings with
    | none => .ok (Registry.ofSettings {})
    | some v => ((Settings.ofValue v).mapError SettingsError.toError).map Registry.ofSettings
  match started with
  | .error e => (s, ⟨.error e, []⟩)
  | .ok r =>
    match r.failure with
    | some e => (s, ⟨.error e, r.warnings⟩)
    | none =>
      ({ s with registry := r.registry, declared := [] },
        ⟨.ok (.value (.int r.registry.definitions.length)), r.warnings⟩)

/-- Offers by name; of two offers for one name the later one stands in the place of the earlier. -/
def distinct (offers : List (String × Offer)) : List (String × Option Definition) :=
  let keyed := offers.map fun (name, offer) => (Value.str name, (name, offer.definition?))
  (Keyed.putAll [] keyed).map (·.2)

/-- What a command does whose values have their serial numbers. -/
def obey (s : Session) : Command → Session × Outcome
  | .restart settings => s.restart settings
  | .register offers =>
    s.registered (.value (.bool true)) (s.registry.register (distinct offers))
  | .registerAlias name rules override =>
    s.registered (.value (.bool true)) (s.registry.registerAlias name rules override)
  | .clearFields => ({ s with declared := [] }, ⟨.ok (.value (.bool true)), []⟩)
  | .declare field rules =>
    match s.perform (s.registry.parse (.list rules)) with
    | (.error e, s) => (s, ⟨.error e, []⟩)
    | (.ok parsed, s) =>
      if !field.isHashable then (s, ⟨.error .wrongType, []⟩)
      else
        let (numbered, s) := s.numbering parsed.number
        ({ s with declared := Keyed.put field numbered s.declared },
          ⟨.ok (.value (.bool true)), []⟩)
  | .keep name making =>
    match s.perform (s.makeKept making) with
    | (.error e, s) => (s, ⟨.error e, []⟩)
    | (.ok (made, isSame), s) =>
      let (numbered, s) := s.numbering (Kept.number made)
      (s.set name numbered, ⟨.ok (.kept numbered.kindName isSame), []⟩)
  | command =>
    let (result, s) := s.perform (s.ask command)
    (s, ⟨result, []⟩)

/-- What a command does. -/
def run (s : Session) (command : Command) : Session × Outcome :=
  let (command, s) := s.numbering command.renewed
  s.obey command

end Session

end RecordCheck
