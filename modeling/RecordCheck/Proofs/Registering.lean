import Mathlib.Data.List.TakeWhile
import RecordCheck.Proofs.Settings

/-!
# Registering in a batch

Definitions are registered one after the other. The first entry that cannot be registered ends the
registration: the entries before it stay registered, and nothing else changes. No name comes twice
in a batch, so what stands in the way of an entry can be seen before anything is registered.

## Main definitions

* `Registry.isBad`, `Registry.refusal`: an entry that ends a registration, and the error.
* `Registry.accepted`: the entries before the first bad one.

## Main statements

* `Registry.register_eq`: a registration in one equation.
* `Registry.register_stops`: what a registration changes, what it warns of and how it fails.
-/
set_option autoImplicit false

namespace RecordCheck

namespace Registry

/-- Whether an entry cannot be registered: there is nothing in it that makes rules, or its name is
taken and keeps its meaning. -/
def isBad (g : Registry) (entry : String × Option Definition) : Bool :=
  entry.2.isNone || (g.contains entry.1 && !g.allowOverrides)

/-- The error for an entry that cannot be registered. -/
def refusal : String × Option Definition → Error
  | (_, none) => .notCallable
  | (name, some _) => .alreadyRegistered name

/-- The entries before the first that cannot be registered. -/
def accepted (g : Registry) (entries : List (String × Option Definition)) :
    List (String × Option Definition) :=
  entries.takeWhile fun entry => !g.isBad entry

/-- The registry with the name of an entry bound to what the entry has for it. -/
def defineEntry (g : Registry) : String × Option Definition → Registry
  | (name, some definition) => g.define name definition
  | (_, none) => g

variable {g : Registry} {name : String} {definition : Definition}
  {entry : String × Option Definition} {entries rest : List (String × Option Definition)}

theorem refusal_kind (entry : String × Option Definition) :
    (refusal entry).kind = .rule .registration := by
  obtain ⟨name, offered⟩ := entry
  cases offered <;> rfl

/-! ## One entry -/

theorem register_cons_of_isBad (bad : g.isBad entry = true) :
    g.register (entry :: rest) = ⟨g, [], some (refusal entry)⟩ := by
  obtain ⟨name, offered⟩ := entry
  cases offered with
  | none => rfl
  | some definition =>
    obtain ⟨known, closed⟩ : g.contains name = true ∧ g.allowOverrides = false := by
      simpa [isBad] using bad
    rw [register, if_pos known, if_neg (by simp [closed])]
    rfl

theorem register_cons (good : g.isBad (name, some definition) = false) :
    g.register ((name, some definition) :: rest) =
      let after := (g.define name definition).register rest
      { after with
        warnings := (if g.contains name then [replacing name] else []) ++ after.warnings } := by
  rw [register]
  by_cases known : g.contains name = true
  · have allowed : g.allowOverrides = true := by
      simpa [isBad, known] using good
    rw [if_pos known, if_pos allowed, if_pos known]
    rfl
  · rw [if_neg known, if_neg known]
    rfl

/-- Binding a name makes no difference to entries with other names. -/
theorem isBad_define {other : String} (ne : other ≠ name) (offered : Option Definition) :
    (g.define name definition).isBad (other, offered) = g.isBad (other, offered) := by
  simp only [isBad, contains, find?_define_of_ne definition ne]
  rfl

/-! ## All entries -/

/-- On the way through a batch, the registry still says of the entries to come what the registry
that the batch was given to says. -/
theorem register_eq_of_agree {h : Registry} (distinct : (entries.map Prod.fst).Nodup)
    (agree : ∀ entry ∈ entries,
      h.isBad entry = g.isBad entry ∧ h.contains entry.1 = g.contains entry.1) :
    h.register entries =
      { registry := (g.accepted entries).foldl defineEntry h
        warnings := ((g.accepted entries).filter fun entry => g.contains entry.1).map fun entry =>
          replacing entry.1
        failure := (entries.find? g.isBad).map refusal } := by
  induction entries generalizing h with
  | nil => rfl
  | cons entry rest ih =>
    obtain ⟨here, later⟩ := List.forall_mem_cons.1 agree
    cases bad : g.isBad entry with
    | true =>
      rw [register_cons_of_isBad (here.1.trans bad)]
      simp [accepted, bad]
    | false =>
      obtain ⟨name, offered⟩ := entry
      obtain ⟨definition, rfl⟩ : ∃ definition, offered = some definition := by
        cases offered with
        | none => simp [isBad] at bad
        | some definition => exact ⟨definition, rfl⟩
      obtain ⟨fresh, distinct⟩ := List.nodup_cons.1 distinct
      have next := ih (h := h.define name definition) distinct fun entry member => by
        have ne : entry.1 ≠ name := fun same => fresh (List.mem_map.2 ⟨entry, member, same⟩)
        refine ⟨(isBad_define ne entry.2).trans (later entry member).1, ?_⟩
        rw [contains, find?_define_of_ne definition ne]
        exact (later entry member).2
      rw [register_cons (here.1.trans bad), next]
      by_cases known : g.contains name = true <;>
        simp [accepted, bad, here.2, known, defineEntry]

/-- A registration in one equation: the entries before the first bad one are bound, each that
replaces something is warned of, and the first bad one is refused. -/
theorem register_eq (distinct : (entries.map Prod.fst).Nodup) :
    g.register entries =
      { registry := (g.accepted entries).foldl defineEntry g
        warnings := ((g.accepted entries).filter fun entry => g.contains entry.1).map fun entry =>
          replacing entry.1
        failure := (entries.find? g.isBad).map refusal } :=
  register_eq_of_agree distinct fun _ _ => ⟨rfl, rfl⟩

theorem find?_defineAll_of_not_mem (other : name ∉ entries.map Prod.fst) :
    (entries.foldl defineEntry g).find? name = g.find? name := by
  induction entries generalizing g with
  | nil => rfl
  | cons entry rest ih =>
    obtain ⟨known, offered⟩ := entry
    obtain ⟨ne, other⟩ := not_or.1 (mt List.mem_cons.2 other)
    rw [List.foldl_cons, ih other]
    cases offered with
    | none => rfl
    | some definition => exact find?_define_of_ne definition ne

theorem find?_defineAll_of_mem (distinct : (entries.map Prod.fst).Nodup)
    (member : (name, some definition) ∈ entries) :
    (entries.foldl defineEntry g).find? name = some definition := by
  induction entries generalizing g with
  | nil => cases member
  | cons entry rest ih =>
    obtain ⟨fresh, distinct⟩ := List.nodup_cons.1 distinct
    rw [List.foldl_cons]
    rcases List.mem_cons.1 member with rfl | member
    · rw [find?_defineAll_of_not_mem fresh]
      exact find?_define g name definition
    · exact ih distinct member

theorem entryField_defineAll :
    (entries.foldl defineEntry g).entryField = g.entryField ∧
      (entries.foldl defineEntry g).allowOverrides = g.allowOverrides := by
  induction entries generalizing g with
  | nil => exact ⟨rfl, rfl⟩
  | cons entry rest ih =>
    obtain ⟨name, offered⟩ := entry
    cases offered <;> exact ih

/-- A batch without a repeated name is registered up to the first entry that has nothing to make
rules or has a taken name where names keep their meaning. Registering fails exactly if there is such
an entry, with the error for the first of them. Whether it fails or not, the entries before that one
are bound to what they have, all other names stand for what they stood for, and there is one warning
for each of these entries whose name was taken, in order. -/
theorem register_stops (distinct : (entries.map Prod.fst).Nodup) :
    let done := g.register entries
    let taken := g.accepted entries
    ((∃ e, done.failure = some e ∧ e.kind = .rule .registration) ↔
        ∃ entry ∈ entries, g.isBad entry = true) ∧
      done.failure = (entries.find? g.isBad).map refusal ∧
      (∀ entry ∈ taken, entry.2.isSome ∧ done.registry.find? entry.1 = entry.2) ∧
      (∀ name ∉ taken.map Prod.fst, done.registry.find? name = g.find? name) ∧
      done.registry.entryField = g.entryField ∧
      done.registry.allowOverrides = g.allowOverrides ∧
      done.warnings = (taken.filter fun entry => g.contains entry.1).map fun entry =>
        replacing entry.1 := by
  intro done taken
  have all : done = _ := register_eq distinct
  have taken_distinct : (taken.map Prod.fst).Nodup :=
    distinct.sublist ((List.takeWhile_sublist _).map _)
  refine ⟨?_, ?_, fun entry member => ?_, fun name other => ?_, ?_, ?_, ?_⟩
  · rw [all]
    constructor
    · rintro ⟨e, failed, -⟩
      obtain ⟨entry, found, -⟩ := Option.map_eq_some_iff.1 failed
      exact ⟨entry, List.mem_of_find?_eq_some found, List.find?_some found⟩
    · rintro ⟨entry, member, bad⟩
      obtain ⟨first, found⟩ := Option.isSome_iff_exists.1
        (List.find?_isSome.2 ⟨entry, member, bad⟩)
      exact ⟨refusal first, congrArg (Option.map refusal) found, refusal_kind first⟩
  · rw [all]
  · have good : g.isBad entry = false := by
      simpa using List.mem_takeWhile_imp member
    obtain ⟨name, offered⟩ := entry
    cases offered with
    | none => simp [isBad] at good
    | some definition =>
      rw [all]
      exact ⟨rfl, find?_defineAll_of_mem taken_distinct member⟩
  · rw [all]
    exact find?_defineAll_of_not_mem other
  · rw [all]
    exact entryField_defineAll.1
  · rw [all]
    exact entryField_defineAll.2
  · rw [all]

/-- A batch that gives a built-in name a new meaning and comes to something that makes no rules: the
built-in name is warned of, and what stands behind the fault is not registered. -/
theorem register_stops_halfway :
    let entries : List (String × Option Definition) :=
      [("count", some (.builtin .positiveInteger)), ("email", some (.builtin .string)),
        ("broken", none), ("late", some (.builtin .decimal))]
    let done := register {} entries
    (entries.map Prod.fst).Nodup ∧
      done.failure = some .notCallable ∧
      done.registry.find? "count" = some (.builtin .positiveInteger) ∧
      done.registry.find? "email" = some (.builtin .string) ∧
      done.registry.find? "late" = none ∧
      done.registry.find? "url" = some (.builtin .url) ∧
      done.warnings = ["Rule 'email' is already registered. Overwriting it"] := by
  intro entries done
  have distinct : (entries.map Prod.fst).Nodup := by decide
  obtain ⟨-, failed, bound, others, -, -, warned⟩ := register_stops (g := {}) distinct
  have taken : accepted {} entries = entries.take 2 := rfl
  rw [taken] at bound others warned
  refine ⟨distinct, failed, (bound _ (.head _)).2, (bound _ (.tail _ (.head _))).2,
    (others "late" (by decide)).trans rfl, (others "url" (by decide)).trans rfl, warned⟩

end Registry

end RecordCheck
