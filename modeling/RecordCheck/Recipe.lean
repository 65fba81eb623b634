import RecordCheck.Parsing

/-!
# Rules made directly

A rule can be made without a description: by calling what makes a built-in rule, or by putting a
rule together from its parts. A rule that is put together may have parts that it cannot work with;
it fails when it is applied.
-/
set_option autoImplicit false

namespace RecordCheck

/-- The families of rules that can be put together from parts. -/
inductive Family where
  | blank | comparison | length | shape | nested | pattern | timezone
deriving DecidableEq, Repr

/-- Puts a rule of a family together from the given parts. -/
def Family.assemble : Family → List Value → Act Rule
  | blank, [operator] => return .blank (.ofOperator operator)
  | comparison, [operator] => return .comparison { operator := .ofValue operator }
  | comparison, [operator, operand] => return .comparison ⟨.ofValue operator, operand⟩
  | length, [operator, bounds] =>
    return .length ⟨.ofValue operator, bounds, Length.defaultEncoding⟩
  | length, [operator, bounds, encoding] => return .length ⟨.ofValue operator, bounds, encoding⟩
  | shape, [operator] => return .shape (.ofOperator operator)
  | nested, [kind, description] => return .draft ⟨.ofValue kind, description, .null, .null⟩
  | nested, [kind, description, field] => return .draft ⟨.ofValue kind, description, field, .null⟩
  | nested, [kind, description, field, entryField] =>
    return .draft ⟨.ofValue kind, description, field, entryField⟩
  | pattern, source :: more => do
    let pattern ← Pattern.ofValue source {}
    match more with
    | [] => return .pattern (← Match.ofPattern pattern (.str Code.wrongFormat))
    | [error] => return .pattern (← Match.ofPattern pattern error)
    | _ => throw .wrongType
  | timezone, [] => return .knownTimezone
  | timezone, [zones] => do
    let members ← zones.walk
    if Value.areHashable members then return .timezone (Value.distinct members)
    else throw .wrongType
  | _, _ => throw .wrongType

/-- How to make a rule: from the arguments of a built-in rule, from the parts of a family, or as a
set of rules, some of which may be values that are no rules. A draft can be finished on the way, by
the built-in rules alone. The values in a recipe stand for new ones each time it is used. -/
inductive Recipe where
  | call (rule : Builtin) (arguments : List Value) (finished : Bool)
  | assemble (family : Family) (parts : List Value) (finished : Bool)
  | set (members : List (Recipe ⊕ Value)) (override : Value)

instance : Inhabited Recipe := ⟨.set [] .null⟩

/-- The finished form of a draft. Other rules cannot be finished, except those that are already. -/
def Rule.finish (g : Registry) : Rule → Act Rule
  | .draft d => g.finish d
  | .object field entryField v => return .object field entryField v
  | .listOf field serial entryField rules => return .listOf field serial entryField rules
  | .objects field entryField v => return .objects field entryField v
  | _ => throw .missingAttribute

namespace Recipe

/-- The rules among the members of a set, all of which must be rules. -/
def rulesOf : List (Rule ⊕ Value) → Except Error (List Rule)
  | [] => .ok []
  | .inl rule :: rest => (rulesOf rest).map (rule :: ·)
  | .inr v :: _ => .error (.memberShape v.kind)

mutual

/-- Makes the rule, with further arguments after those of the recipe. -/
def make : Recipe → List Value → Act Rule
  | .call rule arguments finished, more => do
    let made ← rule.make ((← Value.renewedAll arguments) ++ more)
    if finished then made.finish {} else return made
  | .assemble family parts finished, more => do
    let made ← family.assemble ((← Value.renewedAll parts) ++ more)
    if finished then made.finish {} else return made
  | .set members override, _ => do
    let rules ← rulesOf (← makeAll members)
    return .all 0 (.mk rules (← override.renewed))

/-- Makes the members of a set that are recipes. -/
def makeAll : List (Recipe ⊕ Value) → Act (List (Rule ⊕ Value))
  | [] => return []
  | .inl recipe :: rest => do
    let made ← make recipe []
    return .inl made :: (← makeAll rest)
  | .inr v :: rest => do return .inr v :: (← makeAll rest)

end

end Recipe

end RecordCheck
