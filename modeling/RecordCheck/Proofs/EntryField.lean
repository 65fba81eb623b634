import Mathlib
import RecordCheck.Proofs.Agreement
import RecordCheck.Proofs.Alias

/-!
# The field of an entry

An entry of a list is checked as the only field of a record. A registry has the name of this field,
which shows in nothing that is reported: with another name the same descriptions are read, or
rejected for the same reason, and the rules report the same, as long as no entry is compared with a
field of either name.

## Main definitions

* `Piece.EntriesAvoid`: entries of lists are not compared with some fields.

## Main statements

* `RuleSet.apply_entry`: what is reported about an entry, whatever its field is called.
* `Rule.Same.entryField`: what is reported about a list.
* `Registry.parse_entryField`: registries with two names for the field of an entry.
-/
set_option autoImplicit false

namespace RecordCheck

open Act

/-- Where a piece is a rule for lists, it compares no entry with one of the given fields. -/
def Piece.EntriesAvoid (names : List Value) : Piece → Prop
  | .rule (.listOf _ _ _ rules) => ∀ operand ∈ rules.operands, operand ∉ names
  | _ => True

/-! ## Entries -/

/-- A record with one field has null everywhere else. -/
theorem Value.field?_single_of_ne {name : String} {field : Value} (other : field ≠ .str name)
    (v : Value) : (Value.dict [(.str name, v)]).field? field =
      if field.isHashable then some .null else none := by
  have differs : (Value.str name).same field = false := by
    cases field with
    | str s => simpa [same] using fun same : name = s => other (by rw [same])
    | _ => simp [same]
  simp [field?, Keyed.find?, differs]

section Names

variable {name other : String}

/-- An entry may stand in a field of any name that its rules do not compare with. -/
theorem RuleSet.apply_entry {rules : RuleSet}
    (avoids : ∀ operand ∈ rules.operands, operand ∉ [.str name, .str other]) (v entry : Value) :
    rules.apply v (.dict [(.str name, entry)]) = rules.apply v (.dict [(.str other, entry)]) := by
  refine rules.apply_of_agree ⟨rfl, rfl, fun operand member => ?_⟩ v
  obtain ⟨first, second⟩ : operand ≠ .str name ∧ operand ≠ .str other := by
    simpa using avoids operand member
  rw [Value.field?_single_of_ne first, Value.field?_single_of_ne second]

/-- Rules for lists report the same when their sets do, whatever the field of an entry is called. -/
theorem Rule.Same.entryField {s t : RuleSet} (same : s.Same t)
    (avoids : ∀ operand ∈ s.operands, operand ∉ [.str name, .str other]) (field : Value) :
    Rule.Same (.listOf field 0 name s) (.listOf field 0 other t) := by
  refine ⟨rfl, fun v record => ?_⟩
  have each (entry : Value) : s.apply entry (.dict [(.str name, entry)]) =
      t.apply entry (.dict [(.str other, entry)]) :=
    (s.apply_entry avoids entry entry).trans (same _ _)
  simp only [apply, each]

end Names

/-! ## Rules -/

/-- Sets with the same override report the same when their rules do. -/
theorem RuleSet.Same.of_rules {s t : RuleSet} (override : s.override = t.override)
    (same : SameReports s.rules t.rules) : s.Same t := by
  intro v record
  obtain ⟨rs, _⟩ := s
  obtain ⟨ss, _⟩ := t
  cases override
  have each : firstReport rs v record = firstReport ss v record := same v record
  rw [apply, apply, each]

theorem SameReports.of_forall₂ {rs ss : List Rule} (h : List.Forall₂ Rule.Same rs ss) :
    SameReports rs ss := by
  induction h with
  | nil => exact fun _ _ => rfl
  | cons first _ ih => exact (SameReports.single first).append ih

/-- What holds of pairs on a condition holds where the condition does. -/
theorem forall₂_of_condition {α β : Type} {P : α → Prop} {R : α → β → Prop} {xs : List α}
    {ys : List β} (h : List.Forall₂ (fun x y => P x → R x y) xs ys) (met : ∀ x ∈ xs, P x) :
    List.Forall₂ R xs ys :=
  ((List.forall₂_and_left _ _).2 ⟨met, h⟩).imp fun _ _ ⟨here, related⟩ => related here

namespace Registry

variable (g : Registry) (other : String)

/-- Rules that are read with two names for the field of an entry report the same. -/
def Likeness.entryField : Likeness True g { g with entryField := other } :=
  let Avoids (xs : List Piece) := ∀ x ∈ xs, x.EntriesAvoid [.str g.entryField, .str other]
  { rule := fun r s => Avoids r.pieces → r.Same s
    set := fun s t => s.override = t.override ∧ (Avoids s.pieces → SameReports s.rules t.rules)
    validator := fun v w => Avoids v.pieces → v.Same w
    made := fun same _ => same trivial ▸ ⟨rfl, fun _ _ => rfl⟩
    read := fun alike => ⟨rfl, fun avoids => .of_forall₂ (forall₂_of_condition alike
      fun rule member x inside => avoids x (RuleSet.mem_pieces.2 (.inr ⟨rule, member, inside⟩)))⟩
    all := by
      refine fun {s t} override alike avoids => ⟨rfl, fun v record => ?_⟩
      have inner : Avoids s.pieces := fun x inside => by
        rcases RuleSet.mem_pieces.1 inside with rfl | nested
        · trivial
        · exact avoids x (.tail _ (RuleSet.mem_pieces.2 (.inr nested)))
      have same : (s.withOverride override).Same (t.withOverride override) :=
        .of_rules rfl (alike.2 inner)
      rw [Rule.apply, Rule.apply, same v record]
    listOf := fun {s t} field alike avoids =>
      .entryField (.of_rules alike.1 (alike.2 fun x inside => avoids x (.tail _ inside)))
        (avoids _ (.head _)) field
    object := fun _ _ same avoids => .object (same fun x inside => avoids x (.tail _ inside)) _ _
    objects := fun _ _ same avoids => .objects (same fun x inside => avoids x (.tail _ inside)) _ _
    fields := by
      refine fun {es fs} alike avoids => .fields (forall₂_of_condition
        (P := fun entry => Avoids entry.2.pieces) (alike.imp ?_) ?_) 0
      · exact fun _ _ ⟨key, override, same⟩ inner => ⟨key, .of_rules override (same inner)⟩
      · exact fun entry member x inside =>
          avoids x (.tail _ (mem_fieldPieces.2 ⟨entry, member, inside⟩))
    switch := by
      refine fun {cs ds} field alike avoids => .switch (forall₂_of_condition
        (P := fun case => Avoids case.2.pieces) (alike.imp ?_) ?_) 0 field
      · exact fun _ _ ⟨key, same⟩ inner => ⟨key, same inner⟩
      · exact fun case member x inside =>
          avoids x (.tail _ (mem_casePieces.2 ⟨case, member, inside⟩)) }

/-- An entry that is compared with the field of entries is compared with itself under one name and
with nothing under another. -/
example :
    let report (name : String) := outcome ((RuleSet.mk
      [.listOf .null 0 name (.mk [.comparison (.sameAs (.str "entry"))] .null)] .null).apply
        (.list [.str "x"]) .null) {}
    report "entry" = .ok none ∧
      report "item" = .ok (some (.slots [some (.code (.str Code.fieldsNotEqual))])) :=
  ⟨by cbv, by cbv⟩

end Registry

end RecordCheck
