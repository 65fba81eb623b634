import RecordCheck.Description
import RecordCheck.Registry

/-!
# Descriptions as rules

A description is turned into a set of rules by making the rule of each of its calls. Drafts are
finished at once: the descriptions inside them are turned into validators in the same way. The rules
that an alias stands for are read where the alias is used, so an alias that leads back to itself has
no end; reading keeps the names whose own rules are being read and stops when one of them comes up
again.

## Main definitions

* `Registry.parse`: the rules of a description.
* `Registry.finish`: the rule that a draft is meant to be.
* `Registry.build`, `Registry.switch`: validators.
-/
set_option autoImplicit false

namespace RecordCheck

namespace Registry

/-- How many names are registered whose rules are not being read. -/
def spare (g : Registry) (pending : List String) : Nat :=
  ((g.definitions.map (·.1)).filter fun name => !pending.contains name).length

/-- A name whose rules begin to be read is not spare any more. -/
theorem spare_cons_lt {g : Registry} {pending : List String} {name : String}
    (known : (g.find? name).isSome) (fresh : ¬ pending.contains name) :
    g.spare (name :: pending) < g.spare pending := by
  have member : name ∈ g.definitions.map (·.1) := by
    revert known
    unfold find?
    generalize g.definitions = entries
    intro known
    induction entries with
    | nil => simp at known
    | cons entry rest ih =>
      obtain ⟨other, definition⟩ := entry
      rw [List.lookup_cons] at known
      by_cases same : name = other
      · simp [same]
      · have different : (name == other) = false := by simpa using same
        rw [different] at known
        exact List.mem_cons_of_mem _ (ih known)
  unfold spare
  have split : (g.definitions.map (·.1)).filter (fun n => !(name :: pending).contains n) =
      ((g.definitions.map (·.1)).filter fun n => !pending.contains n).filter (· != name) := by
    rw [List.filter_filter]
    congr 1
    funext n
    by_cases same : n = name <;> simp [same]
  rw [split]
  refine List.length_filter_lt_length_iff_exists.2 ⟨name, ?_, by simp⟩
  exact List.mem_filter.2 ⟨member, by simpa using fresh⟩

/-- How descriptions are read and drafts are finished. -/
structure Reading where
  parse : Value → Act RuleSet
  finish : Draft → Act Rule

section Within

/-! ## While the rules of some names are being read

`deeper` reads what belongs to a further name. -/

variable (g : Registry) (pending : List String)
  (deeper : (name : String) → (g.find? name).isSome → ¬ pending.contains name → Reading)

/-- What the name of a call makes of its arguments. An alias takes no arguments. -/
def makeWithin (call : Call) : Act Rule :=
  match known : g.find? call.name with
  | none => throw (.unknownRule call.name)
  | some (.builtin b) => b.make call.arguments
  | some (.custom make) => do
    match ← make call.arguments with
    | some rule => return rule
    | none => throw .madeNoRule
  | some (.standsFor rules override) =>
    if !call.arguments.isEmpty then throw .wrongType
    else if fresh : pending.contains call.name then throw .endless
    else do
      let s ← (deeper call.name (by rw [known]; rfl) fresh).parse rules
      return .all 0 (s.withOverride override)

/-- Finishes a draft that a name has made and that is not described by the call's argument. -/
def finishOwn (name : String) (d : Draft) : Act Rule :=
  if known : (g.find? name).isSome then
    if fresh : pending.contains name then throw .endless
    else (deeper name known fresh).finish d
  else throw (.unknownRule name)

mutual

/-- The rules of a description. -/
def parseWithin (description : Value) : Act RuleSet := do
  let rules ← (Description.calls description).attach.mapM fun
    | ⟨.error e, _⟩ => throw e
    | ⟨.ok call, member⟩ =>
      have := Description.argument_weight_lt description member
      ruleWithin call
  return .mk rules .null
termination_by 4 * description.weight

/-- The rule of a call. A draft that is described by the call's argument is finished as part of the
description. Any other draft belongs to the name, like the rules of an alias. -/
def ruleWithin (call : Call) : Act Rule := do
  match ← makeWithin g pending deeper call with
  | .draft d =>
    if d.description.weight ≤ call.argument.weight then finishWithin d
    else finishOwn g pending deeper call.name d
  | rule => return rule
termination_by 4 * call.argument.weight + 3

/-- The rule that a draft is meant to be. -/
def finishWithin (d : Draft) : Act Rule :=
  match d.kind with
  | .object => do
    return .object d.field d.entryField (.fields 0 (← buildWithin d.description))
  | .objects => do
    return .objects d.field d.entryField (.fields 0 (← buildWithin d.description))
  | .list => do return .listOf d.field 0 g.entryField (← parseWithin d.description)
  | .variants =>
    match shape : d.description with
    | .dict entries => do
      let cases ← entries.attach.mapM fun ⟨(key, ruleset), member⟩ => do
        have : ruleset.weight < d.description.weight := shape ▸ Value.weight_lt_dict member
        return (key, Validator.fields 0 (← buildWithin ruleset))
      return .objects d.field d.entryField (.switch 0 d.field cases)
    | v => throw (.ofMissingMethod v "items")
  | .unknown operator => do throw (.unknownOperator "nested" (← Error.textOf operator))
termination_by 4 * d.description.weight + 2

/-- The rules for the fields that a ruleset describes; null describes none. -/
def buildWithin (ruleset : Value) : Act (List (Value × RuleSet)) :=
  match ruleset with
  | .null => return []
  | .dict entries => entries.attach.mapM fun ⟨(field, rules), member⟩ => do
    have : rules.weight < (Value.dict entries).weight := Value.weight_lt_dict member
    return (field, ← parseWithin rules)
  | v => throw (.rulesetShape v.kind)
termination_by 4 * ruleset.weight + 1

end

end Within

/-- How descriptions are read while the rules of some names are being read. -/
def reading (g : Registry) (pending : List String) : Reading :=
  let deeper (name : String) (known : (g.find? name).isSome) (fresh : ¬ pending.contains name) :=
    have := spare_cons_lt known fresh
    reading g (name :: pending)
  ⟨parseWithin g pending deeper, finishWithin g pending deeper⟩
termination_by g.spare pending

/-- What belongs to a name is read while the name is pending. -/
def deeper (g : Registry) (pending : List String) (name : String) (_ : (g.find? name).isSome)
    (_ : ¬ pending.contains name) : Reading :=
  g.reading (name :: pending)

/-- The rules of a description. -/
def parse (g : Registry) (description : Value) : Act RuleSet :=
  parseWithin g [] (g.deeper []) description

/-- The rule of a call, made but not finished. -/
def make (g : Registry) (call : Call) : Act Rule := makeWithin g [] (g.deeper []) call

/-- The rule of a call. -/
def rule (g : Registry) (call : Call) : Act Rule := ruleWithin g [] (g.deeper []) call

/-- The rule that a draft is meant to be. -/
def finish (g : Registry) (d : Draft) : Act Rule := finishWithin g [] (g.deeper []) d

/-- The rules of one call, or of every entry of a mapping. -/
def rulesFor (g : Registry) (rule argument : Value) : Act RuleSet :=
  match rule with
  | .str name => do return .mk [← g.rule ⟨name, argument⟩] .null
  | .dict entries => do
    let rules ← entries.mapM fun entry => do g.rule (← Description.entryCall entry)
    return .mk rules .null
  | v => throw (.ofMissingMethod v "items")

/-- A validator for the fields that a ruleset describes, after fields that have been declared. -/
def build (g : Registry) (declared : List (Value × RuleSet)) (ruleset : Value) :
    Act Validator := do
  return .fields 0 (Keyed.putAll declared (← buildWithin g [] (g.deeper []) ruleset))

/-- A validator that chooses a ruleset by the value of a field. Declared fields belong to every
case. -/
def switch (g : Registry) (declared : List (Value × RuleSet)) (field rulesets : Value) :
    Act Validator :=
  match rulesets with
  | .dict entries => do
    let cases ← entries.mapM fun entry => do return (entry.1, ← g.build declared entry.2)
    return .switch 0 field cases
  | v => throw (.ofMissingMethod v "items")

end Registry

end RecordCheck
