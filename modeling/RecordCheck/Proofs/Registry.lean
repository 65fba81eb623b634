import RecordCheck.Proofs.Keyed
import RecordCheck.Registry

/-!
# Registries of built-in rules and aliases

A registry starts with the built-in rules, and registering aliases adds names that stand for
descriptions. As long as no program adds ways of its own, every name is a built-in rule or an alias.

## Main definitions

* `Registry.IsStandard`: there are built-in rules and aliases only.

## Main statements

* `Registry.find?_registerAlias`: an alias stands for the rules that it was registered with.
* `Registry.IsStandard.register`: registering keeps a registry standard.
* `Registry.IsStandard.ofSettings`: a registry that settings ask for is standard.
-/
set_option autoImplicit false

namespace RecordCheck

variable {D : Value → Prop}

/-- A built-in rule, or an alias whose rules have a property, with a code of its own or none. -/
def Definition.IsStandard (D : Value → Prop) : Definition → Prop
  | .builtin _ => True
  | .standsFor rules override => D rules ∧ (override = .null ∨ override.isStr)
  | .custom _ => False

namespace Registry

/-- Every name is that of a built-in rule, or of an alias whose rules have a property. -/
def IsStandard (g : Registry) (D : Value → Prop) : Prop :=
  ∀ entry ∈ g.definitions, entry.2.IsStandard D

theorem mem_put {name : String} {definition : Definition}
    {definitions : List (String × Definition)} {entry : String × Definition}
    (h : entry ∈ put name definition definitions) :
    entry ∈ definitions ∨ entry.2 = definition := by
  induction definitions with
  | nil => exact .inr (by rw [List.mem_singleton.1 h])
  | cons first rest ih =>
    obtain ⟨known, old⟩ := first
    rw [put] at h
    split at h
    · rcases List.mem_cons.1 h with rfl | h
      · exact .inr rfl
      · exact .inl (by simp [h])
    · rcases List.mem_cons.1 h with rfl | h
      · exact .inl (by simp)
      · exact (ih h).imp_left fun h => by simp [h]

theorem find?_define (g : Registry) (name : String) (definition : Definition) :
    (g.define name definition).find? name = some definition := by
  simp only [define, find?]
  induction g.definitions with
  | nil => simp [put]
  | cons entry rest ih =>
    obtain ⟨known, old⟩ := entry
    rw [put]
    split
    · next same =>
      obtain rfl := eq_of_beq same
      simp
    · next other =>
      have differs : (name == known) = false := by
        simp only [beq_iff_eq] at other
        simpa using fun same : name = known => other same.symm
      rw [List.lookup_cons, differs]
      exact ih

/-- A name that was registered as an alias stands for its rules. -/
theorem find?_registerAlias {g : Registry} {name : String} {rules override : Value}
    (registered : (g.registerAlias (.str name) rules override).failure = none) :
    (g.registerAlias (.str name) rules override).registry.find? name =
      some (.standsFor rules override) := by
  simp only [registerAlias, register] at registered ⊢
  split at registered
  · cases registered
  split at registered
  · cases registered
  next named given =>
  rw [if_neg named, if_neg given]
  split at registered
  · next known =>
    rw [if_pos known]
    split at registered
    · next allowed =>
      rw [if_pos allowed]
      exact find?_define g name _
    · cases registered
  · next unknown =>
    rw [if_neg unknown]
    exact find?_define g name _

namespace IsStandard

variable {g : Registry}

theorem find? (standard : g.IsStandard D) {name : String} {definition : Definition}
    (found : g.find? name = some definition) : definition.IsStandard D :=
  standard _ (Keyed.mem_of_lookup found)

/-- A registry of the built-in rules alone. -/
theorem builtins (entryField : String) (allowOverrides : Bool) :
    IsStandard { entryField, allowOverrides } D := by
  intro entry member
  obtain ⟨b, -, rfl⟩ := List.mem_map.1 member
  trivial

theorem define (standard : g.IsStandard D) {definition : Definition}
    (added : definition.IsStandard D) (name : String) :
    (g.define name definition).IsStandard D := by
  intro entry member
  rcases mem_put member with old | new
  · exact standard entry old
  · exact new ▸ added

/-- However far a registration gets, it adds nothing but what it is given. -/
theorem register {added : List (String × Option Definition)} (standard : g.IsStandard D)
    (each : ∀ entry ∈ added, ∀ definition ∈ entry.2, definition.IsStandard D) :
    (g.register added).registry.IsStandard D := by
  induction added generalizing g with
  | nil => exact standard
  | cons entry rest ih =>
    obtain ⟨name, definition⟩ := entry
    have later := fun entry (member : entry ∈ rest) => each entry (by simp [member])
    cases definition with
    | none => exact standard
    | some definition =>
      have step := standard.define (each (name, some definition) (by simp) definition rfl) name
      rw [Registry.register]
      split
      · split
        · exact ih step later
        · exact standard
      · exact ih step later

theorem registerAlias (standard : g.IsStandard D) (name : Value) {rules override : Value}
    (described : D rules) (code : override = .null ∨ override.isStr) :
    (g.registerAlias name rules override).registry.IsStandard D := by
  unfold Registry.registerAlias
  split
  · split
    · exact standard
    split
    · exact standard
    · refine standard.register fun entry member definition same => ?_
      rw [List.mem_singleton.1 member] at same
      cases same
      exact ⟨described, code⟩
  · exact standard

theorem addAliases {aliases : List AliasSettings} (standard : g.IsStandard D)
    (described : ∀ a ∈ aliases, D a.rules) : (g.addAliases aliases).registry.IsStandard D := by
  induction aliases generalizing g with
  | nil => exact standard
  | cons a rest ih =>
    obtain ⟨name, rules, error⟩ := a
    have own : D rules := described ⟨name, rules, error⟩ (by simp)
    have later := fun a (member : a ∈ rest) => described a (by simp [member])
    rw [Registry.addAliases]
    have step (override : Value) (code : override = .null ∨ override.isStr) :=
      standard.registerAlias (.str name) own code
    cases error with
    | none =>
      have := step .null (.inl rfl)
      dsimp only
      split
      · next same => exact ih (by rwa [same] at this) later
      · exact this
    | some code =>
      have := step (.str code) (.inr rfl)
      dsimp only
      split
      · next same => exact ih (by rwa [same] at this) later
      · exact this

/-- A registry that settings ask for is standard. -/
theorem ofSettings {settings : Settings} (described : ∀ a ∈ settings.aliases, D a.rules) :
    (Registry.ofSettings settings).registry.IsStandard D :=
  (builtins settings.listEntryField settings.allowOverrides).addAliases described

end IsStandard

end Registry

end RecordCheck
