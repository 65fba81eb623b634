import RecordCheck.Proofs.Rereading
import RecordCheck.Proofs.Settings

/-!
# Aliases in any order

An alias is looked up where it is used, and its rules are read there. So it does not matter in which
order aliases with different names are registered: the registries know the same names and read every
description alike. The rules of an alias may even name aliases that are registered after it.

## Main definitions

* `Registry.Alias`: what an alias is registered with.

## Main statements

* `Registry.addAll_aliases`: new aliases stand behind the names that are there.
* `Registry.parse_agreement`: what is read depends on what the names stand for, not on their order.
* `Registry.aliases_in_any_order`: a list of aliases and a permutation of it.
-/
set_option autoImplicit false

namespace RecordCheck

open Act

/-- Where no key comes twice, the order of entries makes no difference to what is found. -/
theorem Keyed.lookup_eq_of_perm {α : Type} {xs ys : List (String × α)} (perm : xs.Perm ys)
    (distinct : (xs.map Prod.fst).Nodup) (key : String) : xs.lookup key = ys.lookup key := by
  induction perm with
  | nil => rfl
  | cons entry _ ih =>
    rw [List.lookup_cons, List.lookup_cons, ih (List.nodup_cons.1 distinct).2]
  | swap first second rest =>
    have differ : second.1 ≠ first.1 := fun same =>
      (List.nodup_cons.1 distinct).1 (by simp [same])
    rw [List.lookup_cons, List.lookup_cons, List.lookup_cons, List.lookup_cons]
    by_cases here : key = first.1
    · have other : (key == second.1) = false := by simpa [here] using differ.symm
      rw [other]
    · have other : (key == first.1) = false := by simpa using here
      rw [other]
  | trans first _ ih ih' =>
    exact (ih distinct).trans (ih' ((first.map _).nodup_iff.1 distinct))

namespace Registry

/-- What an alias is registered with: its name, its rules, and what is reported in place of what
they report, or null. -/
structure Alias where
  name : String
  rules : Value
  override : Value := .null

namespace Alias

def addition (a : Alias) : Addition := .registerAlias (.str a.name) a.rules a.override

def definition (a : Alias) : Definition := .standsFor a.rules a.override

/-- An alias with rules and a name that is not blank. -/
def IsWellFormed (a : Alias) : Prop :=
  Text.isAllBlank a.name = false ∧ isBare a.rules = false

end Alias

variable {g h : Registry} {a : Alias} {as bs : List Alias}

/-! ## Registering aliases -/

theorem add_alias (wellFormed : a.IsWellFormed) (new : g.contains a.name = false) :
    g.add a.addition = ⟨g.define a.name a.definition, [], none⟩ := by
  obtain ⟨named, described⟩ := wellFormed
  rw [Alias.addition, add, registerAlias, if_neg (by simp [named]), if_neg (by simp [described]),
    register, if_neg (by simp [new])]
  rfl

theorem define_new {name : String} (new : g.contains name = false) (definition : Definition) :
    g.define name definition = { g with definitions := g.definitions ++ [(name, definition)] } := by
  have unknown : g.definitions.lookup name = none := by simpa [contains, find?] using new
  rw [define, put_new unknown]

/-- New aliases stand behind the names that are there. -/
theorem addAll_aliases (wellFormed : ∀ a ∈ as, a.IsWellFormed) (distinct : (as.map Alias.name).Nodup)
    (new : ∀ a ∈ as, g.contains a.name = false) :
    g.addAll (as.map Alias.addition) =
      { g with definitions := g.definitions ++ as.map fun a => (a.name, a.definition) } := by
  induction as generalizing g with
  | nil => simp [addAll]
  | cons a rest ih =>
    obtain ⟨own, others⟩ := List.forall_mem_cons.1 wellFormed
    obtain ⟨here, later⟩ := List.forall_mem_cons.1 new
    obtain ⟨apart, distinct⟩ := List.nodup_cons.1 distinct
    have still : ∀ b ∈ rest, (g.define a.name a.definition).contains b.name = false := by
      intro b member
      have ne : b.name ≠ a.name := fun same => apart (List.mem_map.2 ⟨b, member, same⟩)
      rw [contains, find?_define_of_ne a.definition ne]
      exact later b member
    calc g.addAll ((a :: rest).map Alias.addition)
        = (g.define a.name a.definition).addAll (rest.map Alias.addition) := by
          rw [List.map_cons, addAll, List.foldl_cons, add_alias own here]
          rfl
      _ = _ := by
          rw [ih others distinct still, define_new here]
          simp

/-- None of the aliases fails to be registered. -/
theorem add_alias_failure (wellFormed : ∀ a ∈ as, a.IsWellFormed)
    (distinct : (as.map Alias.name).Nodup) (new : ∀ a ∈ as, g.contains a.name = false)
    {front rest : List Alias} (split : as = front ++ a :: rest) :
    ((g.addAll (front.map Alias.addition)).add a.addition).failure = none := by
  subst split
  rw [List.map_append, List.map_cons] at distinct
  obtain ⟨distinct, -, differ⟩ := List.nodup_append.1 distinct
  have apart : a.name ∉ front.map Alias.name := fun member => differ _ member _ (.head _) rfl
  have start := addAll_aliases (fun b member => wellFormed b (List.mem_append_left _ member))
    distinct fun b member => new b (List.mem_append_left _ member)
  have own : a ∈ front ++ a :: rest := by simp
  have unknown : (g.addAll (front.map Alias.addition)).contains a.name = false := by
    have old : g.definitions.lookup a.name = none := by simpa [contains, find?] using new a own
    have added : (front.map fun b => (b.name, b.definition)).lookup a.name = none := by
      rw [List.lookup_eq_none_iff]
      rintro _ member
      obtain ⟨b, inside, rfl⟩ := List.mem_map.1 member
      simpa using fun same : a.name = b.name => apart (List.mem_map.2 ⟨b, inside, same.symm⟩)
    rw [start, contains, find?, List.lookup_append, old, added]
    rfl
  rw [add_alias (wellFormed a own) unknown]

/-! ## The order of definitions -/

theorem names_of_perm (perm : g.definitions.Perm h.definitions) : g.names = h.names := by
  have transitive (a b c : String) (ab : decide (a ≤ b) = true) (bc : decide (b ≤ c) = true) :
      decide (a ≤ c) = true := by
    simp only [decide_eq_true_eq] at ab bc ⊢
    exact String.le_trans ab bc
  have total (a b : String) : (decide (a ≤ b) || decide (b ≤ a)) = true := by
    simpa using String.le_total a b
  have sorted (k : Registry) := List.pairwise_mergeSort transitive total (k.definitions.map (·.1))
  refine List.Perm.eq_of_pairwise (fun a b _ _ ab ba => ?_) (sorted g) (sorted h) ?_
  · simp only [decide_eq_true_eq] at ab ba
    exact String.le_antisymm ab ba
  · exact (List.mergeSort_perm _ _).trans ((perm.map _).trans (List.mergeSort_perm _ _).symm)

/-- Everything is the same where entries of lists are checked under the same name. -/
def Likeness.sameField {exact : Prop} (same : h.entryField = g.entryField) : Likeness exact g h :=
  { Likeness.equal exact g with
    listOf := fun _ alike asked => by rw [same, alike asked] }

/-- What is read depends on what the names stand for, not on their order. -/
theorem parse_agreement (names : ∀ name, h.find? name = g.find? name)
    (field : h.entryField = g.entryField) (description : Value) :
    Coupling.agreement.Holds (· = ·) (g.parse description) (h.parse description) :=
  ((agreement_paired (.sameField field) names []).parse description).mono fun _ _ same =>
    same trivial

/-- Aliases that have rules and names of their own, none of which is taken, can be registered in any
order: every registration succeeds, the registries have the same names, and every description is
read as the same set of rules or rejected with the same error. -/
theorem aliases_in_any_order (wellFormed : ∀ a ∈ as, a.IsWellFormed)
    (distinct : (as.map Alias.name).Nodup) (new : ∀ a ∈ as, g.contains a.name = false)
    (perm : as.Perm bs) :
    let one := g.addAll (as.map Alias.addition)
    let other := g.addAll (bs.map Alias.addition)
    (∀ front a rest, as = front ++ a :: rest →
        ((g.addAll (front.map Alias.addition)).add a.addition).failure = none) ∧
      one.names = other.names ∧
      ∀ description,
        Coupling.agreement.Holds (· = ·) (one.parse description) (other.parse description) := by
  intro one other
  have one_eq : one = _ := addAll_aliases wellFormed distinct new
  have other_eq : other = _ := addAll_aliases (fun b member => wellFormed b (perm.mem_iff.2 member))
    ((perm.map _).nodup_iff.1 distinct) fun b member => new b (perm.mem_iff.2 member)
  have entries := perm.map fun a : Alias => (a.name, a.definition)
  have keys : ((as.map fun a => (a.name, a.definition)).map Prod.fst).Nodup := by
    rw [List.map_map]
    exact distinct
  refine ⟨fun front a rest => add_alias_failure wellFormed distinct new, ?_, fun description => ?_⟩
  · rw [one_eq, other_eq]
    exact names_of_perm (entries.append_left _)
  · refine parse_agreement (fun name => ?_) ?_ description
    · rw [one_eq, other_eq, find?, find?, List.lookup_append, List.lookup_append,
        Keyed.lookup_eq_of_perm entries keys]
    · rw [one_eq, other_eq]

/-- An alias that is registered before the one that its rules name. -/
theorem aliases_in_any_order_forward :
    let login : Alias := ⟨"login", .str "word", .str "NO_LOGIN"⟩
    let word : Alias := ⟨"word", .str "string", .null⟩
    let one := addAll {} ([login, word].map Alias.addition)
    let other := addAll {} ([word, login].map Alias.addition)
    let read := RuleSet.mk [.all 0 (.mk [.all 0 (.mk [.shape .scalar] .null)] (.str "NO_LOGIN"))]
      .null
    one.names = other.names ∧ outcome (one.parse (.str "login")) {} = .ok read ∧
      outcome (other.parse (.str "login")) {} = .ok read := by
  intro login word one other read
  have wellFormed : ∀ a ∈ [login, word], a.IsWellFormed := by
    simp only [List.forall_mem_cons, List.not_mem_nil, false_imp_iff, implies_true, and_true]
    exact ⟨⟨by decide, rfl⟩, ⟨by decide, rfl⟩⟩
  have distinct : ([login, word].map Alias.name).Nodup := by decide
  have new : ∀ a ∈ [login, word], contains {} a.name = false := by
    simp only [List.forall_mem_cons, List.not_mem_nil, false_imp_iff, implies_true, and_true]
    exact ⟨rfl, rfl⟩
  obtain ⟨-, names, reads⟩ := aliases_in_any_order wellFormed distinct new (.swap word login [])
  have one_eq : one = _ := addAll_aliases wellFormed distinct new
  have login_found : one.find? "login" = some login.definition := by rw [one_eq]; rfl
  have word_found : one.find? "word" = some word.definition := by rw [one_eq]; rfl
  have string_found : one.find? "string" = some (.builtin .string) := by rw [one_eq]; rfl
  have parsed : outcome (one.parse (.str "login")) {} = .ok read := by
    rw [parse, parseWithin_alias login_found (by simp), parseWithin_alias word_found (by simp),
      parseWithin_name string_found rfl rfl]
    rfl
  exact ⟨names, parsed, (reads (.str "login")).outcome_eq {} ▸ parsed⟩

end Registry

end RecordCheck
