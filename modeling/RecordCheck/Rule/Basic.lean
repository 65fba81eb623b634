import RecordCheck.Rule.Blank
import RecordCheck.Rule.Comparison
import RecordCheck.Rule.Length
import RecordCheck.Rule.Match
import RecordCheck.Rule.Shape
import RecordCheck.Timezone.Ids

/-!
# Rules, sets of rules, and validators

A rule checks one value. A set of rules is a rule itself: it stops at the first rule that reports
something. A validator has a set of rules for each field of a record, or chooses between validators
by the value of one field. Rules for nested records and for lists hold a validator or a set of
rules; as long as they are drafts they hold the description of it instead.

## Main definitions

* `Rule`, `RuleSet`, `Validator`.
* `Draft`: a rule whose description has not been read yet.
-/
set_option autoImplicit false

namespace RecordCheck

/-- What a rule with a description inside it checks: a nested record, a list of values, a list of
records, or a list of records of several kinds. -/
inductive NestedKind where
  | object | list | objects | variants
  | unknown (operator : Value)
deriving Repr

namespace NestedKind

/-- The word that a kind is written as. -/
def toValue : NestedKind → Value
  | .object => .str "nested_object"
  | .list => .str "list"
  | .objects => .str "list_objects"
  | .variants => .str "list_different_objects"
  | .unknown operator => operator

def ofValue : Value → NestedKind
  | .str "nested_object" => .object
  | .str "list" => .list
  | .str "list_objects" => .objects
  | .str "list_different_objects" => .variants
  | operator => .unknown operator

end NestedKind

/-- A rule whose description has not been read yet. `field` tells kinds of records apart. -/
structure Draft where
  kind : NestedKind
  description : Value
  field : Value := .null
  entryField : Value := .null
deriving Repr

mutual

/-- Rules. A finished rule keeps the labels that its draft had, and a set within a set has a serial
number; they do not take part in checking. -/
inductive Rule where
  | blank (test : BlankTest)
  | comparison (c : Comparison)
  | length (l : Length)
  | shape (test : ShapeTest)
  | pattern (m : Match)
  | timezone (zones : List Value)
  | draft (d : Draft)
  /-- Checks a nested record. -/
  | object (field entryField : Value) (validator : Validator)
  /-- Checks each entry of a list, as the only field of a record. -/
  | listOf (field : Value) (serial : Nat) (entryField : String) (rules : RuleSet)
  /-- Checks each entry of a list as a record. -/
  | objects (field entryField : Value) (validator : Validator)
  /-- Applies the rules of a set. -/
  | all (serial : Nat) (rules : RuleSet)

/-- Rules that are applied in order up to the first report, and what is reported in its place; null
keeps the report. -/
inductive RuleSet where
  | mk (rules : List Rule) (override : Value)

/-- Validators. The serial number tells validators apart that were built at different times. -/
inductive Validator where
  | fields (serial : Nat) (entries : List (Value × RuleSet))
  | switch (serial : Nat) (field : Value) (cases : List (Value × Validator))

end

instance : Inhabited RuleSet := ⟨.mk [] .null⟩

namespace RuleSet

def rules : RuleSet → List Rule
  | .mk rules _ => rules

/-- What is reported in place of the rules' own reports; null when there is nothing. -/
def override : RuleSet → Value
  | .mk _ override => override

/-- The set without rules. -/
def empty : RuleSet := .mk [] .null

/-- The rules of the first set, then those of the second; the override is that of the first. -/
def merge (a b : RuleSet) : RuleSet := .mk (a.rules ++ b.rules) a.override

def withOverride (a : RuleSet) (override : Value) : RuleSet := .mk a.rules override

end RuleSet

namespace Rule

/-- The rule for the time zones that are known. -/
def knownTimezone : Rule := .timezone (Timezone.ids.map .str)

/-- Whether a rule is asked about absent values too. Sets see to it themselves. -/
def seesAbsent : Rule → Bool
  | .blank _ | .all .. => true
  | _ => false

/-- Whether a rule still has to be finished. -/
def isDraft : Rule → Bool
  | .draft _ => true
  | _ => false

end Rule

end RecordCheck
