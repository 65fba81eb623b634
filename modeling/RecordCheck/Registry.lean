import RecordCheck.Builtin
import RecordCheck.Settings.Basic
import RecordCheck.Text.Blank

/-!
# Registries

A registry knows rules by their names. A name stands for a built-in rule, for an alias, whose
description is read each time the alias is used, or for a way of making rules that a program has
registered.

## Main definitions

* `Definition`, `Registry`.
* `Registry.register`, `Registry.registerAlias`: names are added, or replaced where that is allowed.
* `Registry.ofSettings`: the registry that settings ask for.
-/
set_option autoImplicit false

namespace RecordCheck

/-- What a name stands for. A program's own way of making rules gives `none` where it makes
something else. -/
inductive Definition where
  | builtin (rule : Builtin)
  | standsFor (rules override : Value)
  | custom (make : List Value → Act (Option Rule))

/-- Rules by name, the name that entries of lists are checked under, and whether a name may be given
a new meaning. -/
structure Registry where
  entryField : String := "entry"
  allowOverrides : Bool := true
  definitions : List (String × Definition) := Builtin.all.map fun b => (b.name, .builtin b)

/-- A registry after names were registered, the warnings about names that have been replaced, and
the error that kept the rest from being registered. -/
structure Registered where
  registry : Registry
  warnings : List String := []
  failure : Option Error := none

namespace Registry

def find? (g : Registry) (name : String) : Option Definition := g.definitions.lookup name

def contains (g : Registry) (name : String) : Bool := (g.find? name).isSome

/-- The registered names in alphabetical order. -/
def names (g : Registry) : List String :=
  (g.definitions.map (·.1)).mergeSort fun a b => decide (a ≤ b)

/-- Gives a name a meaning; a known name keeps its place. -/
def put (name : String) (definition : Definition) :
    List (String × Definition) → List (String × Definition)
  | [] => [(name, definition)]
  | (known, old) :: rest =>
    if known == name then (known, definition) :: rest
    else (known, old) :: put name definition rest

def define (g : Registry) (name : String) (definition : Definition) : Registry :=
  { g with definitions := put name definition g.definitions }

/-- The warning that a name gets a new meaning. -/
def replacing (name : String) : String :=
  "Rule '" ++ name ++ "' is already registered. Overwriting it"

/-- Registers names one after the other. What is not to be called to make a rule, given as `none`,
and a known name where replacing is not allowed, end the registration; what came before them stays.
-/
def register (g : Registry) : List (String × Option Definition) → Registered
  | [] => ⟨g, [], none⟩
  | (_, none) :: _ => ⟨g, [], some .notCallable⟩
  | (name, some definition) :: rest =>
    if g.contains name then
      if g.allowOverrides then
        let after := register (g.define name definition) rest
        { after with warnings := replacing name :: after.warnings }
      else ⟨g, [], some (.alreadyRegistered name)⟩
    else register (g.define name definition) rest

/-- Whether there are no rules in a description. -/
def isBare : Value → Bool
  | .null => true
  | .str s => s.isEmpty
  | .list entries => entries.isEmpty
  | .dict entries => entries.isEmpty
  | _ => false

/-- Registers an alias; `override` is reported in place of what its rules report, unless it is
null. -/
def registerAlias (g : Registry) (name rules override : Value) : Registered :=
  match name with
  | .str s =>
    if Text.isAllBlank s then ⟨g, [], some .aliasWithoutName⟩
    else if isBare rules then ⟨g, [], some (.aliasWithoutRules s)⟩
    else g.register [(s, some (.standsFor rules override))]
  | _ => ⟨g, [], some .aliasWithoutName⟩

/-- Registers aliases up to the first one that fails. -/
def addAliases (g : Registry) : List AliasSettings → Registered
  | [] => ⟨g, [], none⟩
  | a :: rest =>
    let override := match a.error with
      | some code => Value.str code
      | none => .null
    match g.registerAlias (.str a.name) a.rules override with
    | ⟨g', warnings, none⟩ =>
      let after := addAliases g' rest
      { after with warnings := warnings ++ after.warnings }
    | failed => failed

/-- The registry that settings ask for. -/
def ofSettings (settings : Settings) : Registered :=
  addAliases { entryField := settings.listEntryField, allowOverrides := settings.allowOverrides }
    settings.aliases

end Registry

end RecordCheck
