import RecordCheck.Recipe

/-!
# The parts of rules

Rules are shown and compared by their parts: the operator they are written with, the operand, and so
on. A validator inside a rule counts as one part.

## Main definitions

* `Part`, `Rule.parts`: the named parts of a rule.
* `Rule.text?`, `Validator.text?`: rules and validators as text.
* `Rule.same`, `RuleSet.same`: whether rules have the same parts.
-/
set_option autoImplicit false

namespace RecordCheck

namespace Validator

/-- The number that tells a validator apart. -/
def serial : Validator → Nat
  | .fields serial _ => serial
  | .switch serial _ _ => serial

/-- The fields that a validator has rules for; a switch has none of its own. -/
def fieldNames? : Validator → Option (List Value)
  | .fields _ entries => some (entries.map (·.1))
  | .switch .. => none

/-- The field that a switch goes by and the values that it has cases for. -/
def switchOn? : Validator → Option (Value × List Value)
  | .fields .. => none
  | .switch _ field cases => some (field, cases.map (·.1))

/-- The name of a validator's kind. -/
def kindName : Validator → String
  | .fields .. => "Validator"
  | .switch .. => "SwitchValidator"

/-- A validator as text. There is none when a whole number in it has too many digits. -/
def text? : Validator → Option String
  | .fields _ entries => do
    some ("Validator(fields=" ++ (← (Value.list (entries.map (·.1))).quoted?) ++ ")")
  | .switch _ field cases => do
    some ("SwitchValidator(field=" ++ (← field.quoted?) ++ ", cases=" ++
      (← (Value.list (cases.map (·.1))).quoted?) ++ ")")

end Validator

/-- A part of a rule. -/
inductive Part where
  | value (v : Value)
  | pattern (p : Pattern)
  | zones (all : List Value)
  | validator (v : Validator)

namespace Part

/-- A part as text. -/
def text? : Part → Option String
  | .value v => v.quoted?
  | .pattern p => some p.text
  | .zones _ => none
  | .validator v => v.text?

/-- Whether a part is shown; the zones are too many. -/
def isShown : Part → Bool
  | .zones _ => false
  | _ => true

/-- Whether two parts are the same. Validators are so only if they were built at one time. -/
def same : Part → Part → Bool
  | .value v, .value w => v.alike w
  | .pattern p, .pattern q => p.same q
  | .zones a, .zones b => (Value.items .frozenset a).same (.items .frozenset b)
  | .validator v, .validator w => v.serial == w.serial
  | _, _ => false

end Part

namespace Rule

/-- The name of a rule's family. -/
def familyName : Rule → String
  | .blank _ => "Blank"
  | .comparison _ => "Compare"
  | .length _ => "Length"
  | .shape _ => "Type"
  | .pattern _ => "Match"
  | .timezone _ => "Timezone"
  | .draft _ | .object .. | .listOf .. | .objects .. => "Nested"
  | .all .. => "RuleSet"

/-- The parts of a rule with validators or descriptions inside it. -/
def nestedParts (kind : NestedKind) (inner : Part) (field entryField : Value) :
    List (String × Part) :=
  [("operator", .value kind.toValue), ("validator", inner), ("field", .value field),
   ("entry_field", .value entryField)]

/-- The named parts of a rule; those of a set are rules and come on their own. -/
def parts : Rule → List (String × Part)
  | .blank test => [("operator", .value test.operator)]
  | .comparison c => [("operator", .value c.operator.toValue), ("operand", .value c.operand)]
  | .length l =>
    [("operator", .value l.operator.toValue), ("length", .value l.bounds),
     ("encoding", .value l.encoding)]
  | .shape test => [("operator", .value test.operator)]
  | .pattern m => [("pattern", .pattern m.pattern), ("error", .value m.error)]
  | .timezone zones => [("zones", .zones zones)]
  | .draft d => nestedParts d.kind (.value d.description) d.field d.entryField
  | .object field entryField v => nestedParts .object (.validator v) field entryField
  | .listOf field serial entryField rules =>
    nestedParts .list (.validator (.fields serial [(.str entryField, rules)])) field
      (.str entryField)
  | .objects field entryField v =>
    nestedParts (match v with | .fields .. => .objects | .switch .. => .variants) (.validator v)
      field entryField
  | .all .. => []

/-- The text of a rule with named parts. -/
def partsText? (rule : Rule) : Option String := do
  let shown := rule.parts.filter fun part => part.2.isShown
  let texts ← shown.mapM fun (name, part) => do some (name ++ "=" ++ (← part.text?))
  some (rule.familyName ++ "(" ++ ", ".intercalate texts ++ ")")

mutual

/-- A rule as text. There is none when a whole number in it has too many digits. -/
def text? : Rule → Option String
  | .all _ set => setText? set
  | rule => partsText? rule

/-- A set of rules as text. -/
def setText? : RuleSet → Option String
  | .mk rules override => do
    let texts ← texts? rules
    some ("RuleSet(rules=[" ++ ", ".intercalate texts ++ "], error=" ++ (← override.quoted?) ++ ")")

def texts? : List Rule → Option (List String)
  | [] => some []
  | rule :: rules => do
    let t ← rule.text?
    let ts ← texts? rules
    some (t :: ts)

end

/-- Whether lists of named parts agree. -/
def sameParts (a b : List (String × Part)) : Bool :=
  a.length == b.length && (a.zip b).all fun (x, y) => x.1 == y.1 && x.2.same y.2

mutual

/-- Whether two rules are of one family and have the same parts. A set is the same as itself. -/
def same : Rule → Rule → Bool
  | .all m a, .all n b => (m == n && m != 0) || sameSet a b
  | a, b => a.familyName == b.familyName && sameParts a.parts b.parts

/-- Whether two sets have the same rules in the same order and the same override. -/
def sameSet : RuleSet → RuleSet → Bool
  | .mk a x, .mk b y => sameRules a b && x.same y

def sameRules : List Rule → List Rule → Bool
  | [], [] => true
  | a :: as, b :: bs => a.same b && sameRules as bs
  | _, _ => false

end

end Rule

end RecordCheck
