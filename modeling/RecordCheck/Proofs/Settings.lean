import RecordCheck.Proofs.Bindings

/-!
# Registries that settings ask for

Settings are checked when they are read, and an alias is checked again when it is registered. Both
want the same of it, so that only a name that is taken can keep a registry from being set up, and
this only where names may not be given a new meaning.

## Main definitions

* `Settings.IsValid`: settings that pass the checks of reading.
* `AliasSettings.definition`: what the name of an alias is bound to.

## Main statements

* `Settings.isValid_iff`: valid settings are those that can be read from a value.
* `Registry.addAliases_open`, `Registry.addAliases_closed`: aliases registered one after the other.
* `Registry.ofSettings_binds`: the registry that valid settings ask for.
-/
set_option autoImplicit false

namespace RecordCheck

/-- What the name of an alias is bound to. -/
def AliasSettings.definition (a : AliasSettings) : Definition :=
  .standsFor a.rules (match a.error with
    | some code => .str code
    | none => .null)

/-- An alias that has rules and a name that is not blank. -/
def AliasSettings.IsValid (a : AliasSettings) : Prop :=
  Text.isAllBlank a.name = false ∧ Registry.isBare a.rules = false

/-- The entries of lists have a name to be checked under, and all aliases are valid. -/
def Settings.IsValid (settings : Settings) : Prop :=
  settings.listEntryField.isEmpty = false ∧ ∀ a ∈ settings.aliases, a.IsValid

/-- Some alias has the name of a built-in rule or that of an alias before it. -/
def Settings.RetakesName (settings : Settings) : Prop :=
  ∃ (front : List AliasSettings) (a : AliasSettings) (rest : List AliasSettings),
    settings.aliases = front ++ a :: rest ∧
      ((∃ b : Builtin, b.name = a.name) ∨ ∃ earlier ∈ front, earlier.name = a.name)

/-! ## Settings that can be read -/

namespace Settings

section Checked

variable {α β : Type}

theorem both_ok {a : Checked α} {b : Checked β} {x : α} {y : β} :
    both a b = .ok (x, y) ↔ a = .ok x ∧ b = .ok y := by
  cases a <;> cases b <;> simp [both]

theorem collect_ok {checked : List (Checked α)} {xs : List α} :
    collect checked = .ok xs ↔ checked = xs.map .ok := by
  induction checked generalizing xs with
  | nil => cases xs <;> simp [collect]
  | cons first rest ih =>
    rw [collect]
    cases first with
    | error issues => cases collect rest <;> cases xs <;> simp [both, Except.map]
    | ok x =>
      cases others : collect rest with
      | error issues =>
        have fails (ys : List α) : rest ≠ ys.map .ok := fun same => by
          rw [ih.2 same] at others
          cases others
        cases xs <;> simp [both, Except.map, fails]
      | ok ys =>
        have same := ih.1 others
        cases xs with
        | nil => simp [both, Except.map]
        | cons z zs =>
          rw [same]
          simp [both, Except.map, List.map_inj_right]

theorem ok_of_legible {entries : List (Value × Value)} {checked : Checked α} {x : α}
    (read : legible entries checked = .ok x) : checked = .ok x := by
  unfold legible at read
  split at read
  · cases read
  · exact read

/-- A member has been read if it was given. -/
theorem member_ok {entries : List (Value × Value)} {names : List String} {absent : Checked α}
    {read : String → Value → Checked α} {x : α} (h : member entries names absent read = .ok x) :
    absent = .ok x ∨ ∃ name v, read name v = .ok x := by
  unfold member at h
  split at h
  · next name v _ => exact .inr ⟨name, v, h⟩
  · exact .inl h

theorem mapError_ok {ε ε' : Type} {f : ε → ε'} {r : Except ε α} {x : α} :
    r.mapError f = .ok x ↔ r = .ok x := by
  cases r <;> simp [Except.mapError]

theorem map_ok {ε : Type} {f : α → β} {r : Except ε α} {y : β} :
    r.map f = .ok y ↔ ∃ x, r = .ok x ∧ f x = y := by
  cases r <;> simp [Except.map]

theorem plain_ok {read : Value → Except IssueKind α} {name : String} {v : Value} {x : α} :
    plain read name v = .ok x ↔ read v = .ok x :=
  mapError_ok

end Checked

/-- The check of a name is the one that registering makes. -/
theorem not_blank_of_aliasNameIn {v : Value} {name : String} (read : aliasNameIn v = .ok name) :
    Text.isAllBlank name = false := by
  unfold aliasNameIn at read
  cases text : textIn v with
  | error issue => simp [text, bind, Except.bind] at read
  | ok s =>
    cases blank : Text.isAllBlank s with
    | true => simp [text, blank, bind, Except.bind, throw, throwThe, MonadExceptOf.throw] at read
    | false => simp_all [bind, Except.bind, pure, Except.pure]

/-- The check of rules is the one that registering makes. -/
theorem aliasRulesIn_ok {v rules : Value} :
    aliasRulesIn v = .ok rules ↔ v = rules ∧ Registry.isBare rules = false := by
  have bare {w : Value} (own : Registry.isBare w) :
      ¬ (w = rules ∧ Registry.isBare rules = false) := by
    rintro ⟨rfl, given⟩
    simp [own] at given
  fun_cases aliasRulesIn v with
  | case1 => simpa using bare (w := .null) rfl
  | case2 => simpa using bare (w := .list []) rfl
  | case3 => simpa using bare (w := .dict []) rfl
  | case4 s blank => simpa using bare (w := .str s) blank
  | case5 s given =>
    constructor
    · intro same
      cases same
      exact ⟨rfl, by simpa [Registry.isBare] using given⟩
    · rintro ⟨rfl, -⟩
      rfl
  | case6 noNull noList noDict noText =>
    have filled : Registry.isBare v = false := by
      unfold Registry.isBare
      split <;> simp_all
    constructor
    · intro same
      cases same
      exact ⟨rfl, filled⟩
    · rintro ⟨rfl, -⟩
      rfl

theorem valid_of_aliasIn {entries : List (Value × Value)} {a : AliasSettings}
    (read : aliasIn entries = .ok a) : a.IsValid := by
  obtain ⟨⟨name, rules, error, _⟩, parts, rfl⟩ := map_ok.1 read
  obtain ⟨named, parts⟩ := both_ok.1 (ok_of_legible parts)
  obtain ⟨described, -⟩ := both_ok.1 parts
  constructor
  · rcases member_ok named with missing | ⟨_, v, own⟩
    · cases missing
    · exact not_blank_of_aliasNameIn (plain_ok.1 own)
  · rcases member_ok described with missing | ⟨_, v, own⟩
    · cases missing
    · exact (aliasRulesIn_ok.1 (plain_ok.1 own)).2

theorem valid_of_collect {entries : List Value} {aliases : List AliasSettings}
    (read : collect (entries.zipIdx.map fun (w, index) => aliasAt index w) = .ok aliases) :
    ∀ a ∈ aliases, a.IsValid := by
  intro a member
  obtain ⟨i, at_i⟩ := List.getElem?_of_mem member
  have same := congrArg (·[i]?) (collect_ok.1 read)
  simp only [List.getElem?_map, at_i, Option.map_some, Option.map_eq_some_iff] at same
  obtain ⟨⟨w, index⟩, -, own⟩ := same
  have given := mapError_ok.1 own
  cases w with
  | dict entries => exact valid_of_aliasIn given
  | _ => cases given

theorem valid_of_aliasesIn {name : String} {v : Value} {aliases : List AliasSettings}
    (read : aliasesIn name v = .ok aliases) : ∀ a ∈ aliases, a.IsValid := by
  have own := mapError_ok.1 read
  split at own
  · exact valid_of_collect own
  · exact valid_of_collect own
  · cases own

theorem given_of_entryFieldIn {v : Value} {name : String} (read : entryFieldIn v = .ok name) :
    name.isEmpty = false := by
  unfold entryFieldIn at read
  cases text : textIn v with
  | error issue => simp [text, bind, Except.bind] at read
  | ok s =>
    cases empty : s.isEmpty with
    | true => simp [text, empty, bind, Except.bind, throw, throwThe, MonadExceptOf.throw] at read
    | false => simp_all [bind, Except.bind, pure, Except.pure]

theorem isValid_of_ofValue {v : Value} {settings : Settings} (read : ofValue v = .ok settings) :
    settings.IsValid := by
  unfold ofValue ofMapping at read
  split at read
  · split at read
    · obtain ⟨⟨entryField, allowOverrides, aliases, _⟩, parts, rfl⟩ := map_ok.1 (mapError_ok.1 read)
      obtain ⟨named, parts⟩ := both_ok.1 (ok_of_legible parts)
      obtain ⟨-, parts⟩ := both_ok.1 parts
      obtain ⟨listed, -⟩ := both_ok.1 parts
      constructor
      · rcases member_ok named with same | ⟨_, v, own⟩
        · cases same
          rfl
        · exact given_of_entryFieldIn (plain_ok.1 own)
      · rcases member_ok listed with same | ⟨_, v, own⟩
        · cases same
          simp
        · exact valid_of_aliasesIn own
    · cases read
  · cases read

/-! ### Settings as values -/

end Settings

/-- An alias as a value. -/
def AliasSettings.toValue (a : AliasSettings) : Value :=
  .dict [(.str "name", .str a.name), (.str "rules", a.rules), (.str "error", match a.error with
    | some code => .str code
    | none => .null)]

/-- Settings as a value. -/
def Settings.toValue (settings : Settings) : Value :=
  .dict [(.str "listEntryField", .str settings.listEntryField),
    (.str "allowOverrides", .bool settings.allowOverrides),
    (.str "aliases", .list (settings.aliases.map AliasSettings.toValue))]

namespace Settings

theorem aliasAt_toValue {a : AliasSettings} (valid : a.IsValid) (index : Nat) :
    aliasAt index a.toValue = .ok a := by
  obtain ⟨name, rules, error⟩ := a
  obtain ⟨named, described⟩ := valid
  have text : aliasNameIn (.str name) = .ok name := by
    simp_all [aliasNameIn, textIn, bind, Except.bind, pure, Except.pure]
  have given : aliasRulesIn rules = .ok rules := aliasRulesIn_ok.2 ⟨rfl, described⟩
  cases error <;>
    simp [aliasAt, AliasSettings.toValue, aliasIn, member, beyond, legible, isBroken, Keyed.find?,
      Value.same, plain, text, given, aliasErrorIn, textIn, both, Except.map, Except.mapError]

theorem aliasesIn_toValue {aliases : List AliasSettings} (valid : ∀ a ∈ aliases, a.IsValid)
    (name : String) : aliasesIn name (.list (aliases.map AliasSettings.toValue)) = .ok aliases := by
  refine mapError_ok.2 (collect_ok.2 ?_)
  rw [List.zipIdx_map, List.map_map]
  calc
    _ = (aliases.zipIdx.map Prod.fst).map Except.ok := by
      rw [List.map_map]
      exact List.map_congr_left fun entry member =>
        aliasAt_toValue (valid entry.1 (List.fst_mem_of_mem_zipIdx member)) entry.2
    _ = aliases.map .ok := by rw [List.zipIdx_map_fst]

theorem ofValue_toValue {settings : Settings} (valid : settings.IsValid) :
    ofValue settings.toValue = .ok settings := by
  obtain ⟨entryField, allowOverrides, aliases⟩ := settings
  obtain ⟨named, each⟩ := valid
  have text : entryFieldIn (.str entryField) = .ok entryField := by
    simp_all [entryFieldIn, textIn, bind, Except.bind, pure, Except.pure]
  have listed := aliasesIn_toValue each "aliases"
  simp [ofValue, ofMapping, toValue, ofEntries, member, beyond, legible, isBroken, Keyed.find?,
    Value.same, Value.isStr, plain, text, listed, entryFieldNames, allowOverridesNames, truthIn,
    both, Except.map, Except.mapError]

/-- Valid settings are those that can be read. -/
theorem isValid_iff {settings : Settings} :
    settings.IsValid ↔ ∃ v, ofValue v = .ok settings :=
  ⟨fun valid => ⟨_, ofValue_toValue valid⟩, fun ⟨_, read⟩ => isValid_of_ofValue read⟩

end Settings

/-! ## Aliases one after the other -/

namespace Registry

variable {g : Registry}

theorem find?_define_of_ne {name other : String} (definition : Definition) (ne : other ≠ name) :
    (g.define name definition).find? other = g.find? other := by
  have differs : (other == name) = false := by simpa using ne
  simp only [define, find?]
  induction g.definitions with
  | nil => simp [put, List.lookup_cons, differs]
  | cons entry rest ih =>
    obtain ⟨known, old⟩ := entry
    rw [put]
    split
    · next same =>
      obtain rfl := eq_of_beq same
      rw [List.lookup_cons, List.lookup_cons, differs]
    · rw [List.lookup_cons, List.lookup_cons, ih]

theorem contains_define {name other : String} (definition : Definition) :
    (g.define name definition).contains other ↔ other = name ∨ g.contains other := by
  by_cases same : other = name
  · subst same
    simp [contains, find?_define]
  · simp [contains, find?_define_of_ne definition same, same]

theorem mem_names {name : String} : name ∈ g.names ↔ g.contains name := by
  rw [names, List.mem_mergeSort, contains, find?, List.lookup_isSome_iff, List.mem_map]
  refine exists_congr fun entry => and_congr_right fun _ => ?_
  rw [beq_iff_eq, eq_comm]

/-- The checks let a valid alias pass. -/
theorem addAliases_cons {a : AliasSettings} (valid : a.IsValid) (rest : List AliasSettings) :
    g.addAliases (a :: rest) =
      if g.contains a.name then
        if g.allowOverrides then
          let after := (g.define a.name a.definition).addAliases rest
          { after with warnings := replacing a.name :: after.warnings }
        else ⟨g, [], some (.alreadyRegistered a.name)⟩
      else (g.define a.name a.definition).addAliases rest := by
  obtain ⟨named, described⟩ := valid
  by_cases known : g.contains a.name <;> by_cases allowed : g.allowOverrides <;>
    simp only [addAliases, registerAlias, named, described, register, known, allowed,
      Bool.false_eq_true, if_true, if_false] <;> rfl

/-- Where names may be given a new meaning, all valid aliases are registered. -/
theorem addAliases_open {aliases : List AliasSettings} (valid : ∀ a ∈ aliases, a.IsValid)
    (allowed : g.allowOverrides) : (g.addAliases aliases).failure = none := by
  induction aliases generalizing g with
  | nil => rfl
  | cons a rest ih =>
    obtain ⟨own, others⟩ := List.forall_mem_cons.1 valid
    have done := ih (g := g.define a.name a.definition) others allowed
    rw [addAliases_cons own, if_pos allowed]
    split <;> exact done

/-- The last alias with a name. -/
def lastAlias? (aliases : List AliasSettings) (name : String) : Option AliasSettings :=
  aliases.reverse.find? (·.name == name)

theorem lastAlias?_append {front rest : List AliasSettings} {a : AliasSettings}
    (last : ∀ later ∈ rest, later.name ≠ a.name) :
    lastAlias? (front ++ a :: rest) a.name = some a := by
  have none : rest.reverse.find? (·.name == a.name) = none := by simpa using last
  simp [lastAlias?, none]

theorem lastAlias?_cons (a : AliasSettings) (rest : List AliasSettings) (name : String) :
    lastAlias? (a :: rest) name =
      (lastAlias? rest name).or (if a.name = name then some a else none) := by
  by_cases same : a.name = name <;> simp [lastAlias?, List.find?_append, same]

/-- After all aliases were registered, a name stands for the last alias that has it, and for what it
stood for before where there is none. -/
theorem find?_addAliases {aliases : List AliasSettings} (valid : ∀ a ∈ aliases, a.IsValid)
    (done : (g.addAliases aliases).failure = none) (name : String) :
    (g.addAliases aliases).registry.find? name =
      ((lastAlias? aliases name).map AliasSettings.definition).or (g.find? name) := by
  induction aliases generalizing g with
  | nil => rfl
  | cons a rest ih =>
    obtain ⟨own, others⟩ := List.forall_mem_cons.1 valid
    have step : ((g.define a.name a.definition).addAliases rest).failure = none ∧
        (g.addAliases (a :: rest)).registry =
          ((g.define a.name a.definition).addAliases rest).registry := by
      rw [addAliases_cons own] at done ⊢
      by_cases known : g.contains a.name
      · by_cases allowed : g.allowOverrides
        · rw [if_pos known, if_pos allowed] at done ⊢
          exact ⟨done, rfl⟩
        · rw [if_pos known, if_neg allowed] at done
          cases done
      · rw [if_neg known] at done ⊢
        exact ⟨done, rfl⟩
    rw [step.2, ih others step.1, lastAlias?_cons]
    by_cases same : a.name = name
    · subst same
      cases lastAlias? rest a.name <;> simp [find?_define]
    · rw [find?_define_of_ne _ (Ne.symm same), if_neg same, Option.or_none]

/-- Some alias has a name that is known or that an alias before it has. -/
def Retakes (g : Registry) (aliases : List AliasSettings) : Prop :=
  ∃ (front : List AliasSettings) (a : AliasSettings) (rest : List AliasSettings),
    aliases = front ++ a :: rest ∧
      (g.contains a.name ∨ ∃ earlier ∈ front, earlier.name = a.name)

theorem retakes_nil : ¬ g.Retakes [] := by
  rintro ⟨front, a, rest, split, -⟩
  simp at split

theorem retakes_cons {b : AliasSettings} {later : List AliasSettings} :
    g.Retakes (b :: later) ↔
      g.contains b.name ∨ (g.define b.name b.definition).Retakes later := by
  constructor
  · rintro ⟨front, a, rest, split, taken⟩
    cases front with
    | nil =>
      obtain ⟨rfl, -⟩ := List.cons.inj split
      exact .inl (taken.resolve_right (by simp))
    | cons c front =>
      obtain ⟨rfl, later⟩ := List.cons.inj split
      refine .inr ⟨front, a, rest, later, ?_⟩
      rw [contains_define]
      grind
  · rintro (known | ⟨front, a, rest, rfl, taken⟩)
    · exact ⟨[], b, later, rfl, .inl known⟩
    · refine ⟨b :: front, a, rest, rfl, ?_⟩
      rw [contains_define] at taken
      grind

/-- Where names keep their meaning, valid aliases fail to be registered exactly if one of them
retakes a name. -/
theorem addAliases_closed {aliases : List AliasSettings} (valid : ∀ a ∈ aliases, a.IsValid)
    (closed : g.allowOverrides = false) :
    (g.addAliases aliases).failure = none ∧ ¬ g.Retakes aliases ∨
      ∃ e, (g.addAliases aliases).failure = some e ∧ e.kind = .rule .registration ∧
        g.Retakes aliases := by
  induction aliases generalizing g with
  | nil => exact .inl ⟨rfl, retakes_nil⟩
  | cons b later ih =>
    obtain ⟨own, others⟩ := List.forall_mem_cons.1 valid
    rw [addAliases_cons own, retakes_cons]
    by_cases known : g.contains b.name
    · rw [if_pos known, if_neg (by simp [closed])]
      exact .inr ⟨_, rfl, rfl, .inl known⟩
    · rw [if_neg known, or_iff_right known]
      exact ih (g := g.define b.name b.definition) others closed

/-! ## The registry of some settings -/

theorem contains_builtins (entryField : String) (allowOverrides : Bool) {name : String} :
    contains { entryField, allowOverrides } name ↔ ∃ b : Builtin, b.name = name := by
  constructor
  · intro known
    obtain ⟨definition, found⟩ := Option.isSome_iff_exists.1 known
    obtain ⟨b, -, same⟩ := List.mem_map.1 (Keyed.mem_of_lookup found)
    exact ⟨b, congrArg Prod.fst same⟩
  · rintro ⟨b, rfl⟩
    rw [contains, find?_builtin]
    rfl

theorem contains_addAliases {aliases : List AliasSettings} (valid : ∀ a ∈ aliases, a.IsValid)
    (done : (g.addAliases aliases).failure = none) {name : String} :
    (g.addAliases aliases).registry.contains name ↔
      g.contains name ∨ ∃ a ∈ aliases, a.name = name := by
  have given : (lastAlias? aliases name).isSome ↔ ∃ a ∈ aliases, a.name = name := by
    simp [lastAlias?]
  rw [contains, find?_addAliases valid done, Option.isSome_or, Option.isSome_map, Bool.or_eq_true,
    given, or_comm, contains]

/-- An alias that nothing behind it replaces is what its name stands for. -/
theorem find?_addAliases_last {aliases front rest : List AliasSettings} {a : AliasSettings}
    (valid : ∀ a ∈ aliases, a.IsValid) (done : (g.addAliases aliases).failure = none)
    (split : aliases = front ++ a :: rest) (last : ∀ later ∈ rest, later.name ≠ a.name) :
    (g.addAliases aliases).registry.find? a.name = some a.definition := by
  rw [find?_addAliases valid done, split, lastAlias?_append last]
  rfl

/-- Where no alias retakes a name, each of them is found under its own. -/
theorem find?_addAliases_fresh {aliases : List AliasSettings} {a : AliasSettings}
    (valid : ∀ a ∈ aliases, a.IsValid) (done : (g.addAliases aliases).failure = none)
    (fresh : ¬ g.Retakes aliases) (member : a ∈ aliases) :
    (g.addAliases aliases).registry.find? a.name = some a.definition := by
  obtain ⟨front, rest, split⟩ := List.append_of_mem member
  refine find?_addAliases_last valid done split fun later behind same => ?_
  obtain ⟨between, further, rfl⟩ := List.append_of_mem behind
  refine fresh ⟨front ++ a :: between, later, further, by simp [split], .inr ⟨a, ?_, same.symm⟩⟩
  simp

/-- Settings are valid when they can be read from a value. Where names may be given a new meaning,
the registry that valid settings ask for has the names of the built-in rules and of all aliases; an
alias stands for its rules and its code unless a later one has its name, and a built-in rule is
found under its name unless an alias has it. Where names keep their meaning, the registry cannot be
had exactly if some alias has the name of a built-in rule or of an alias before it, and it has all
aliases otherwise. -/
theorem ofSettings_binds (settings : Settings) :
    (settings.IsValid ↔ ∃ v, Settings.ofValue v = .ok settings) ∧
    (settings.IsValid →
      let made := ofSettings settings
      (settings.allowOverrides = true →
        made.failure = none ∧
        (∀ name, name ∈ made.registry.names ↔
          (∃ b : Builtin, b.name = name) ∨ ∃ a ∈ settings.aliases, a.name = name) ∧
        (∀ (front : List AliasSettings) (a : AliasSettings) (rest : List AliasSettings),
          settings.aliases = front ++ a :: rest → (∀ later ∈ rest, later.name ≠ a.name) →
          made.registry.find? a.name = some a.definition) ∧
        ∀ b : Builtin, (∀ a ∈ settings.aliases, a.name ≠ b.name) →
          made.registry.find? b.name = some (.builtin b)) ∧
      (settings.allowOverrides = false →
        ((∃ e, made.failure = some e ∧ e.kind = .rule .registration) ↔ settings.RetakesName) ∧
        (¬ settings.RetakesName → made.failure = none ∧
          ∀ a ∈ settings.aliases, made.registry.find? a.name = some a.definition))) := by
  refine ⟨Settings.isValid_iff, fun own => ?_⟩
  have valid := own.2
  refine ⟨fun allowed => ?_, fun closed => ?_⟩
  · have done : (ofSettings settings).failure = none := addAliases_open valid allowed
    refine ⟨done, fun name => ?_, fun front a rest => find?_addAliases_last valid done,
      fun b other => ?_⟩
    · rw [mem_names, ← contains_builtins settings.listEntryField settings.allowOverrides]
      exact contains_addAliases valid done
    · have unnamed : lastAlias? settings.aliases b.name = none := by
        simpa [lastAlias?] using other
      have found := find?_addAliases valid done b.name
      rw [unnamed, find?_builtin] at found
      exact found
  · let start : Registry :=
      { entryField := settings.listEntryField, allowOverrides := settings.allowOverrides }
    have retakes : start.Retakes settings.aliases ↔ settings.RetakesName := by
      simp only [Settings.RetakesName, Retakes, start, contains_builtins]
    rcases addAliases_closed (g := start) valid closed with ⟨done, fresh⟩ | ⟨e, failed, kind, taken⟩
    · refine ⟨iff_of_false (fun ⟨e, failed, _⟩ => ?_) (mt retakes.2 fresh), fun _ => ⟨done, ?_⟩⟩
      · cases done.symm.trans failed
      · exact fun a => find?_addAliases_fresh valid done fresh
    · exact ⟨iff_of_true ⟨e, failed, kind⟩ (retakes.1 taken),
        fun fresh => absurd (retakes.1 taken) fresh⟩

/-- Two aliases with one name, one of them with a code of its own. -/
theorem ofSettings_binds_twice :
    let aliases : List AliasSettings :=
      [⟨"whole", .str "integer", none⟩, ⟨"email", .str "string", none⟩,
        ⟨"whole", .list [.str "required"], some "MISSING"⟩]
    let made (allowOverrides : Bool) := ofSettings { allowOverrides, aliases }
    (made true).failure = none ∧
      (made true).registry.find? "whole" =
        some (.standsFor (.list [.str "required"]) (.str "MISSING")) ∧
      (made true).registry.find? "email" = some (.standsFor (.str "string") .null) ∧
      (∃ e, (made false).failure = some e ∧ e.kind = .rule .registration) := by
  intro aliases made
  have named : ∀ a ∈ aliases, a.IsValid := by
    simp only [aliases, List.forall_mem_cons, List.not_mem_nil, false_imp_iff, implies_true,
      and_true]
    exact ⟨⟨rfl, rfl⟩, ⟨rfl, rfl⟩, ⟨rfl, rfl⟩⟩
  have valid (allowOverrides : Bool) : Settings.IsValid { allowOverrides, aliases } := ⟨rfl, named⟩
  obtain ⟨done, -, last, -⟩ := ((ofSettings_binds { aliases }).2 (valid true)).1 rfl
  have taken : Settings.RetakesName { allowOverrides := false, aliases } :=
    ⟨[⟨"whole", .str "integer", none⟩], _, _, rfl, .inl ⟨.email, rfl⟩⟩
  refine ⟨done, last [_, _] _ [] rfl (by simp), last [_] _ [_] rfl (by simp), ?_⟩
  exact (((ofSettings_binds { allowOverrides := false, aliases }).2 (valid false)).2 rfl).1.2 taken

end Registry
end RecordCheck
