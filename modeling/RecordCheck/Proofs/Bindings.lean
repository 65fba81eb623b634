import RecordCheck.Proofs.Registry
import RecordCheck.Session

/-!
# Names that keep their meaning

Where a name may not be given a new meaning, registering does nothing but add names behind those
that are there. This holds of every registration, also of one that fails on the way, so that the
names of a registry and what they stand for are found in all registries that it becomes.

## Main definitions

* `Registry.Addition`, `Registry.addAll`: registrations one after the other.
* `Registry.Extends`: a registry with further names behind those of another.

## Main statements

* `Registry.Extends.add`, `Registry.Extends.addAll`: what one registration keeps, and what a run of
  them keeps.
* `Registry.find?_addAll`: a name that is bound stays bound to the same definition.
* `Session.extends_run`: no command of a session but a restart gives a name a new meaning.
-/
set_option autoImplicit false

namespace RecordCheck

namespace Registry

/-- A call that adds to a registry: definitions under their names, or an alias. -/
inductive Addition where
  | register (entries : List (String × Option Definition))
  | registerAlias (name rules override : Value)

/-- What an addition makes of a registry. -/
def add (g : Registry) : Addition → Registered
  | .register entries => g.register entries
  | .registerAlias name rules override => g.registerAlias name rules override

/-- The registry after some additions, whether they fail or not. -/
def addAll (g : Registry) (additions : List Addition) : Registry :=
  additions.foldl (fun g addition => (g.add addition).registry) g

/-- The second registry has the names of the first in their order and with their definitions, and
may have further names behind them. -/
structure Extends (g h : Registry) : Prop where
  allowOverrides : h.allowOverrides = g.allowOverrides
  definitions : g.definitions <+: h.definitions

/-- A new name stands behind the others. -/
theorem put_new {name : String} {definitions : List (String × Definition)}
    (new : definitions.lookup name = none) (definition : Definition) :
    put name definition definitions = definitions ++ [(name, definition)] := by
  induction definitions with
  | nil => rfl
  | cons entry rest ih =>
    obtain ⟨known, old⟩ := entry
    rw [List.lookup_cons] at new
    split at new
    · cases new
    · next other =>
      have differs : ¬ known == name := by
        intro same
        rw [eq_of_beq same, beq_self_eq_true] at other
        cases other
      rw [put, if_neg differs, ih new, List.cons_append]

namespace Extends

variable {g h k : Registry}

theorem refl (g : Registry) : g.Extends g := ⟨rfl, List.prefix_rfl⟩

theorem trans (first : g.Extends h) (second : h.Extends k) : g.Extends k :=
  ⟨second.allowOverrides.trans first.allowOverrides, first.definitions.trans second.definitions⟩

theorem closed (extended : g.Extends h) (closed : g.allowOverrides = false) :
    h.allowOverrides = false :=
  extended.allowOverrides.trans closed

/-- What a name stands for it stands for later. -/
theorem find? (extended : g.Extends h) {name : String} {definition : Definition}
    (found : g.find? name = some definition) : h.find? name = some definition := by
  obtain ⟨further, same⟩ := extended.definitions
  rw [Registry.find?, ← same, List.lookup_append]
  rw [Registry.find?] at found
  rw [found]
  rfl

theorem names (extended : g.Extends h) : g.names ⊆ h.names := by
  intro name member
  rw [Registry.names, List.mem_mergeSort] at member ⊢
  exact (extended.definitions.map _).subset member

theorem define {name : String} (new : g.find? name = none) (definition : Definition) :
    g.Extends (g.define name definition) :=
  ⟨rfl, by rw [Registry.define, put_new new]; exact List.prefix_append _ _⟩

/-- However far a registration gets, it only adds to a registry in which nothing is replaced. -/
theorem register (closed : g.allowOverrides = false) (entries : List (String × Option Definition)) :
    g.Extends (g.register entries).registry := by
  induction entries generalizing g with
  | nil => exact refl g
  | cons entry rest ih =>
    obtain ⟨name, definition⟩ := entry
    cases definition with
    | none => exact refl g
    | some definition =>
      rw [Registry.register]
      split
      · rw [if_neg (by simp [closed])]
        exact refl g
      · next unknown =>
        have new : g.find? name = none := by
          simpa [contains] using unknown
        have step := define new definition
        exact step.trans (ih (step.closed closed))

theorem registerAlias (closed : g.allowOverrides = false) (name rules override : Value) :
    g.Extends (g.registerAlias name rules override).registry := by
  unfold Registry.registerAlias
  split
  · split
    · exact refl g
    split
    · exact refl g
    · exact register closed _
  · exact refl g

/-- The first alias is registered, and then the others are, or all of them are given up. -/
theorem addAliases_cons (closed : g.allowOverrides = false) (a : AliasSettings) :
    ∃ g' : Registry, g.Extends g' ∧
      ((∀ rest, (g.addAliases (a :: rest)).registry = (g'.addAliases rest).registry) ∨
        ∀ rest, (g.addAliases (a :: rest)).registry = g') := by
  have step := registerAlias closed (.str a.name) a.rules
  simp only [Registry.addAliases]
  split
  · next g' _ same =>
    have left : (g.registerAlias _ _ _).registry = g' := congrArg Registered.registry same
    exact ⟨g', left ▸ step _, .inl fun _ => rfl⟩
  · exact ⟨_, step _, .inr fun _ => rfl⟩

/-- The aliases of the settings are registered up to the first one that fails. -/
theorem addAliases (closed : g.allowOverrides = false) (aliases : List AliasSettings) :
    g.Extends (g.addAliases aliases).registry := by
  induction aliases generalizing g with
  | nil => exact refl g
  | cons a rest ih =>
    obtain ⟨g', step, others | none⟩ := addAliases_cons closed a
    · exact others rest ▸ step.trans (ih (step.closed closed))
    · exact none rest ▸ step

/-- The registry on the way through the aliases of the settings, when some of them are done. -/
theorem addAliases_take (closed : g.allowOverrides = false) (aliases : List AliasSettings)
    (done : Nat) : (g.addAliases (aliases.take done)).registry.Extends
      (g.addAliases aliases).registry := by
  induction aliases generalizing g done with
  | nil => rw [List.take_nil]; exact refl _
  | cons a rest ih =>
    cases done with
    | zero => exact addAliases closed (a :: rest)
    | succ done =>
      rw [List.take_succ_cons]
      obtain ⟨g', step, others | none⟩ := addAliases_cons closed a
      · rw [others, others]
        exact ih (step.closed closed) done
      · rw [none, none]
        exact refl _

/-- One addition keeps what is there. -/
theorem add (closed : g.allowOverrides = false) (addition : Addition) :
    g.Extends (g.add addition).registry := by
  cases addition with
  | register entries => exact register closed entries
  | registerAlias name rules override => exact registerAlias closed name rules override

/-- A run of additions keeps what is there. -/
theorem addAll (closed : g.allowOverrides = false) (additions : List Addition) :
    g.Extends (g.addAll additions) := by
  induction additions generalizing g with
  | nil => exact refl g
  | cons addition rest ih =>
    have step := add closed addition
    exact step.trans (ih (step.closed closed))

end Extends

theorem find?_builtin (b : Builtin) (entryField : String) (allowOverrides : Bool) :
    find? { entryField, allowOverrides } b.name = some (.builtin b) := by
  cases b <;> rfl

/-- In a registry that was set up so that nothing is replaced, a name that stands for something
stands for the same whatever is registered later, and no name is lost. Built-in names stand for the
built-in rules from the start, and the aliases of the settings for their rules as soon as they are
registered. Registrations that fail on the way are no exception. -/
theorem find?_addAll {settings : Settings} (closed : settings.allowOverrides = false)
    (early late : List Addition) :
    let before := (ofSettings settings).registry.addAll early
    let after := before.addAll late
    (∀ name definition, before.find? name = some definition →
        after.find? name = some definition) ∧
      before.names ⊆ after.names ∧
      (∀ b : Builtin, before.find? b.name = some (.builtin b)) ∧
      ∀ done name definition,
        (ofSettings { settings with aliases := settings.aliases.take done }).registry.find? name =
            some definition → before.find? name = some definition := by
  intro before after
  let g : Registry :=
    { entryField := settings.listEntryField, allowOverrides := settings.allowOverrides }
  have start : g.Extends (ofSettings settings).registry := .addAliases closed settings.aliases
  have first : (ofSettings settings).registry.Extends before := .addAll (start.closed closed) early
  have rest : before.Extends after := .addAll (first.closed (start.closed closed)) late
  refine ⟨fun _ _ => rest.find?, rest.names,
    fun b => (start.trans first).find? (find?_builtin b _ _), fun done _ _ => ?_⟩
  have soFar : (ofSettings { settings with aliases := settings.aliases.take done }).registry.Extends
      (ofSettings settings).registry := Extends.addAliases_take (g := g) closed _ done
  exact (soFar.trans first).find?

/-- A registration that fails keeps the names before the one that it failed at, and these are not
replaced later either. -/
theorem find?_addAll_of_failed :
    let settings : Settings :=
      { allowOverrides := false, aliases := [⟨"whole", .str "integer", none⟩] }
    let batch := [("count", some (.builtin .positiveInteger)), ("whole", some (.builtin .decimal))]
    let late : Addition := .registerAlias (.str "count") (.str "email") .null
    let before := (ofSettings settings).registry.addAll [.register batch]
    settings.allowOverrides = false ∧
      ((ofSettings settings).registry.register batch).failure = some (.alreadyRegistered "whole") ∧
      before.find? "count" = some (.builtin .positiveInteger) ∧
      (before.add late).failure = some (.alreadyRegistered "count") ∧
      (before.addAll [late]).find? "count" = some (.builtin .positiveInteger) ∧
      (before.addAll [late]).find? "whole" = some (.standsFor (.str "integer") .null) := by
  intro settings batch late before
  have closed : settings.allowOverrides = false := rfl
  have kept := (find?_addAll closed [.register batch] [late]).1
  exact ⟨closed, rfl, rfl, rfl, kept _ _ rfl, kept _ _ rfl⟩

end Registry

/-! ## Sessions -/

namespace Session

/-- Whether a command asks for a new registry. -/
def Command.isRestart : Command → Bool
  | .restart _ => true
  | _ => false

theorem Command.isRestart_renewed (command : Command) (ledger : Ledger) :
    (command.renewed.run ledger).1.isRestart = command.isRestart := by
  cases command with
  | restart settings => cases settings <;> rfl
  | _ => rfl

/-- Whatever an action comes to, the registry stays as it is. -/
theorem extends_perform {α : Type} {s s' : Session} {act : Act α} {r : Except Error α}
    (ran : s.perform act = (r, s')) : s.registry.Extends s'.registry := by
  have same : s.registry = s'.registry := congrArg (·.2.registry) ran
  exact same ▸ .refl _

section

variable {s : Session} {command : Command} (closed : s.registry.allowOverrides = false)
  (goesOn : command.isRestart = false)
include closed goesOn

theorem extends_obey : s.registry.Extends (s.obey command).1.registry := by
  cases command with
  | restart => cases goesOn
  | register offers => exact .register closed _
  | registerAlias name rules override => exact .registerAlias closed name rules override
  | declare field rules =>
    rw [obey]
    split
    · next ran => exact extends_perform ran
    · next ran =>
      have kept := extends_perform ran
      split <;> exact kept
  | keep name making =>
    rw [obey]
    split
    · next ran => exact extends_perform ran
    · next ran =>
      have kept := extends_perform ran
      exact kept
  | _ => exact .refl _

/-- No command but a restart gives a name of the registry a new meaning. -/
theorem extends_run : s.registry.Extends (s.run command).1.registry :=
  extends_obey (s := { s with ledger := (command.renewed.run s.ledger).2 }) closed
    ((Command.isRestart_renewed command s.ledger).trans goesOn)

end

end Session

end RecordCheck
