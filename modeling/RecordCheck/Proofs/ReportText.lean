import RecordCheck.Proofs.Grammar
import RecordCheck.Proofs.TextForm

/-!
# Reports as text

What is read from JSON text has texts as keys, each of them once in its mapping. A validator that
was built from such data reports null, codes, lists, and mappings from its fields, all of which are
read back as they were from the text that they are printed as.

## Main definitions

* `Value.HasNames`: data in whose mappings all keys are text.
* `Registry.IsLegible`: a registry with data of this kind and with texts for codes.

## Main statements

* `Json.hasNames_of_read`: what is read from JSON text is of this kind.
* `Validator.errors_legible`: what a validator reports is read back from its text.
-/
set_option autoImplicit false

namespace RecordCheck

open Act

/-! ## Data with names -/

mutual

/-- In all mappings that are found in lists and mappings, the keys are text, and no two are the
same. -/
def Value.HasNames : Value → Prop
  | .items _ vs => valuesHaveNames vs
  | .dict entries => Keyed.IsDistinct entries ∧ entriesHaveNames entries
  | _ => True

@[inherit_doc Value.HasNames]
def valuesHaveNames : List Value → Prop
  | [] => True
  | v :: vs => v.HasNames ∧ valuesHaveNames vs

@[inherit_doc Value.HasNames]
def entriesHaveNames : List (Value × Value) → Prop
  | [] => True
  | (key, v) :: entries => (key.IsText ∧ v.HasNames) ∧ entriesHaveNames entries

end

theorem valuesHaveNames_iff {vs : List Value} : valuesHaveNames vs ↔ ∀ v ∈ vs, v.HasNames := by
  induction vs with
  | nil => simp [valuesHaveNames]
  | cons v vs ih => simp [valuesHaveNames, ih]

theorem entriesHaveNames_iff {entries : List (Value × Value)} :
    entriesHaveNames entries ↔ ∀ entry ∈ entries, entry.1.IsText ∧ entry.2.HasNames := by
  induction entries with
  | nil => simp [entriesHaveNames]
  | cons entry entries ih => simp [entriesHaveNames, ih]

namespace Value

theorem hasNames_list {vs : List Value} (each : ∀ v ∈ vs, v.HasNames) :
    (Value.list vs).HasNames := by
  rw [HasNames]
  exact valuesHaveNames_iff.2 each

theorem hasNames_dict_iff {entries : List (Value × Value)} : (Value.dict entries).HasNames ↔
    Keyed.IsDistinct entries ∧ ∀ entry ∈ entries, entry.1.IsText ∧ entry.2.HasNames := by
  rw [HasNames, entriesHaveNames_iff]

theorem hereditary_hasNames : Hereditary HasNames where
  null := trivial
  items h := by
    rw [HasNames] at h
    exact valuesHaveNames_iff.1 h
  dict h entry member := ((hasNames_dict_iff.1 h).2 entry member).2

theorem names_hasNames : Names HasNames := fun _ h =>
  have ⟨distinct, texts⟩ := hasNames_dict_iff.1 h
  ⟨distinct, fun entry member => (texts entry member).1.isStr⟩

theorem isText_of_keyOf {key : Value} (h : KeyOf HasNames key) : key.IsText := by
  obtain ⟨entries, named, entry, member, rfl⟩ := h
  exact ((hasNames_dict_iff.1 named).2 entry member).1

theorem hasNames_of_isText {v : Value} (isText : v.IsText) : v.HasNames := by
  cases v with
  | str | brokenStr => trivial
  | _ => exact isText.elim

/-- Entries whose keys are text are put together to a mapping. -/
theorem hasNames_ofEntries {entries : List (Value × Value)}
    (each : ∀ entry ∈ entries, entry.1.IsText ∧ entry.2.HasNames) :
    (ofEntries entries).HasNames := by
  refine hasNames_dict_iff.2 ⟨Keyed.isDistinct_putAll .nil fun entry member =>
    (each entry member).1.isStr, fun entry member => ⟨?_, ?_⟩⟩
  · have key := (Keyed.keys_putAll [] entries).subset (List.mem_map_of_mem member)
    rw [List.map_nil, List.nil_append] at key
    obtain ⟨source, inside, same⟩ := List.mem_map.1 key
    exact same ▸ (each source inside).1
  · obtain ⟨source, inside, same⟩ := Keyed.mem_putAll member
    exact same ▸ (each source (by simpa using inside)).2

end Value

namespace Json

/-! ## What is read from JSON text -/

theorem forall_map_ok {α β : Type} {x : Except Fault α} {f : α → β} {P : β → Prop}
    (h : ∀ a, x = .ok a → P (f a)) : ∀ b, x.map f = .ok b → P b := by
  intro b made
  obtain ⟨a, given, rfl⟩ := exists_of_map_ok made
  exact h a given

theorem hasNames_of_readPlain (cs : List Char) :
    ∀ found, readPlain cs = .ok found → found.1.HasNames := by
  have number : ∀ found, readNumber cs = .ok found → found.1.HasNames := by
    fun_cases readNumber cs
    all_goals
      rintro _ ⟨⟩
      try trivial
  intro found read
  unfold readPlain at read
  split at read
  · next word known =>
    obtain rfl := Except.ok.inj read
    obtain ⟨⟨name, v⟩, member, made⟩ := List.exists_of_findSome?_eq_some known
    obtain ⟨rest, -, rfl⟩ := Option.map_eq_some_iff.1 made
    have named : ∀ entry ∈ words, entry.2.HasNames := by simp [words, Value.HasNames]
    exact named _ member
  · exact number _ read

mutual

theorem hasNames_of_readValue (depth fuel : Nat) (cs : List Char) :
    ∀ found, readValue depth fuel cs = .ok found → found.1.HasNames := by
  fun_cases readValue depth fuel cs
  case case3 =>
    exact forall_map_ok fun _ read => Value.hasNames_of_isText (isText_of_readText read)
  case case5 =>
    rintro _ ⟨⟩
    exact Value.hasNames_list (by simp)
  case case8 =>
    rintro _ ⟨⟩
    exact Value.hasNames_dict_iff.2 ⟨.nil, by simp⟩
  case case6 fuel rest _ _ =>
    exact forall_map_ok fun _ read =>
      Value.hasNames_list (hasNames_of_readItems (depth - 1) fuel _ _ read)
  case case9 fuel rest _ _ =>
    exact forall_map_ok fun _ read =>
      Value.hasNames_ofEntries (hasNames_of_readEntries (depth - 1) fuel _ _ read)
  case case10 => exact hasNames_of_readPlain cs
  all_goals rintro _ ⟨⟩
termination_by fuel

theorem hasNames_of_readItems (depth fuel : Nat) (cs : List Char) :
    ∀ found, readItems depth fuel cs = .ok found → ∀ v ∈ found.1, v.HasNames := by
  fun_cases readItems depth fuel cs
  case case3 fuel v _ _ _ first =>
    rintro _ ⟨⟩
    exact List.forall_mem_singleton.2 (hasNames_of_readValue depth fuel _ _ first)
  case case4 fuel v _ _ _ first =>
    exact forall_map_ok fun _ read => List.forall_mem_cons.2
      ⟨hasNames_of_readValue depth fuel _ _ first, hasNames_of_readItems depth fuel _ _ read⟩
  all_goals rintro _ ⟨⟩
termination_by fuel

theorem hasNames_of_readEntries (depth fuel : Nat) (cs : List Char) :
    ∀ found, readEntries depth fuel cs = .ok found →
      ∀ entry ∈ found.1, entry.1.IsText ∧ entry.2.HasNames := by
  fun_cases readEntries depth fuel cs
  case case4 fuel _ _ _ text _ _ v _ first _ _ =>
    rintro _ ⟨⟩
    exact List.forall_mem_singleton.2
      ⟨isText_of_readText text, hasNames_of_readValue depth fuel _ _ first⟩
  case case5 fuel _ _ _ text _ _ v _ first _ _ =>
    exact forall_map_ok fun _ read => List.forall_mem_cons.2
      ⟨⟨isText_of_readText text, hasNames_of_readValue depth fuel _ _ first⟩,
        hasNames_of_readEntries depth fuel _ _ read⟩
  all_goals rintro _ ⟨⟩
termination_by fuel

end

end Json

/-! ## Reports -/

/-- A piece whose fields, if it has any, are text, each of them once. -/
def Piece.HasNames : Piece → Prop
  | .validator (.fields _ entries) =>
    Keyed.IsDistinct entries ∧ ∀ entry ∈ entries, entry.1.IsText
  | _ => True

/-- Aliases are for data with names and have a text for a code, if they have one. What a program
makes in ways of its own reports texts about fields with names. -/
structure Registry.IsLegible (g : Registry) : Prop where
  standsFor : ∀ name rules override, g.find? name = some (.standsFor rules override) →
    rules.HasNames ∧ (override = .null ∨ override.IsText)
  custom : ∀ name make, g.find? name = some (.custom make) → ∀ args, Yields (make args)
    fun made => ∀ rule ∈ made, Made Value.HasNames (fun x => x.IsCoded Value.IsText ∧ x.HasNames)
      rule

theorem Registry.IsLegible.isCoded {g : Registry} (legible : g.IsLegible) :
    g.IsCoded Value.IsText where
  standsFor name rules override found := (legible.standsFor name rules override found).2
  custom name make found args := (legible.custom name make found args).mono
    (fun _ made rule member => (made rule member).mono (fun _ _ => trivial) fun _ h => h.1)
    fun _ h => h

/-- All validators that are read from data with names have fields with names. -/
theorem Registry.IsLegible.upholds_hasNames {g : Registry} (legible : g.IsLegible) :
    g.Upholds Value.HasNames Piece.HasNames where
  hereditary := Value.hereditary_hasNames
  builtin b args named := by
    refine (Builtin.make_makes b args).mono (fun rule made => ?_) fun _ h => h
    cases made with
    | draft described => exact named _ described
    | _ => exact List.forall_mem_singleton.2 trivial
  custom name make found args _ := (legible.custom name make found args).mono
    (fun _ made rule member => (made rule member).mono (fun _ h => h) fun _ h => h.2) fun _ h => h
  standsFor name rules override found :=
    ⟨(legible.standsFor name rules override found).1, fun _ => trivial⟩
  composed rule h := trivial
  set _ := trivial
  fields serial entries keys distinct :=
    ⟨distinct Value.names_hasNames, fun entry member => Value.isText_of_keyOf (keys entry member)⟩
  switch _ _ _ _ := trivial

mutual

/-- The fields that a rule checks in records inside a value are those of a validator in it. -/
theorem Rule.pieces_of_nested {entries : FieldRules} : (r : Rule) → entries ∈ r.nested →
    ∃ serial, (Validator.fields serial entries).pieces ⊆ r.pieces
  | .object _ _ v, h | .objects _ _ v, h =>
    have ⟨serial, sub⟩ := Validator.pieces_of_nested v h
    ⟨serial, List.subset_cons_of_subset _ sub⟩
  | .listOf _ _ _ s, h | .all _ s, h =>
    have ⟨serial, sub⟩ := RuleSet.pieces_of_nested s h
    ⟨serial, List.subset_cons_of_subset _ sub⟩
  | .blank _, h | .comparison _, h | .length _, h | .shape _, h | .pattern _, h | .timezone _, h
  | .draft _, h => by cases h

theorem RuleSet.pieces_of_nested {entries : FieldRules} : (s : RuleSet) → entries ∈ s.nested →
    ∃ serial, (Validator.fields serial entries).pieces ⊆ s.pieces
  | .mk rules _, h =>
    have ⟨serial, sub⟩ := rulePieces_of_nested rules h
    ⟨serial, List.subset_cons_of_subset _ sub⟩

theorem rulePieces_of_nested {entries : FieldRules} : (rules : List Rule) →
    entries ∈ rulesNested rules →
    ∃ serial, (Validator.fields serial entries).pieces ⊆ rulePieces rules
  | [], h => by cases h
  | rule :: rules, h =>
    match List.mem_append.1 h with
    | .inl h =>
      have ⟨serial, sub⟩ := Rule.pieces_of_nested rule h
      ⟨serial, List.subset_append_of_subset_left _ sub⟩
    | .inr h =>
      have ⟨serial, sub⟩ := rulePieces_of_nested rules h
      ⟨serial, List.subset_append_of_subset_right _ sub⟩

theorem Validator.pieces_of_nested {entries : FieldRules} : (v : Validator) → entries ∈ v.nested →
    ∃ serial, (Validator.fields serial entries).pieces ⊆ v.pieces
  | .fields serial own, h => by
    obtain rfl := List.mem_singleton.1 h
    exact ⟨serial, List.Subset.refl _⟩
  | .switch _ _ cases, h =>
    have ⟨serial, sub⟩ := casePieces_of_nested cases h
    ⟨serial, List.subset_cons_of_subset _ sub⟩

theorem casePieces_of_nested {entries : FieldRules} : (cases : List (Value × Validator)) →
    entries ∈ casesNested cases →
    ∃ serial, (Validator.fields serial entries).pieces ⊆ casePieces cases
  | [], h => by cases h
  | (_, v) :: cases, h =>
    match List.mem_append.1 h with
    | .inl h =>
      have ⟨serial, sub⟩ := Validator.pieces_of_nested v h
      ⟨serial, List.subset_append_of_subset_left _ sub⟩
    | .inr h =>
      have ⟨serial, sub⟩ := casePieces_of_nested cases h
      ⟨serial, List.subset_append_of_subset_right _ sub⟩

end

/-- Errors whose codes are text can be read back when the fields that they are about have names. -/
theorem Reported.legible {C : Value → Prop} (texts : ∀ code, C code → code.IsText)
    {kinds : List FieldRules} {v : Value} (reported : Reported C kinds v)
    (named : ∀ entries ∈ kinds, ∃ serial, ∀ x ∈ (Validator.fields serial entries).pieces,
      x.HasNames) : v.Legible := by
  induction reported with
  | code isCode => exact .text (texts _ isCode)
  | @fields kinds entries reported member some order parts ih =>
    obtain ⟨serial, named⟩ := named entries member
    obtain ⟨distinct, keys⟩ : (Piece.validator (.fields serial entries)).HasNames :=
      named _ (Validator.self_mem_pieces _)
    have known (part) (inside : part ∈ reported) : part.1 ∈ entries :=
      order.subset (List.mem_map_of_mem inside)
    refine .dict ?_ ?_ ?_
    · have fields := order.map (·.1)
      rw [List.map_map] at fields
      rw [Keyed.IsDistinct, List.map_map]
      exact distinct.sublist fields
    · intro entry inside
      obtain ⟨part, given, rfl⟩ := List.mem_map.1 inside
      exact keys _ (known part given)
    · intro entry inside
      obtain ⟨part, given, rfl⟩ := List.mem_map.1 inside
      refine ih part given fun own member => ?_
      obtain ⟨serial, sub⟩ := RuleSet.pieces_of_nested part.1.2 member
      exact ⟨serial, fun x hx => named x (.tail _ (mem_fieldPieces.2
        ⟨part.1, known part given, sub hx⟩))⟩
  | slots _ _ _ ih =>
    refine .list fun slot member => ?_
    by_cases empty : slot = .null
    · exact empty ▸ .null
    · exact ih slot member empty named

theorem areCodes_isText : AreCodes Value.IsText where
  builtin _ _ := trivial
  given code isText := by
    rintro rfl
    exact isText

/-- What a validator reports about a record is legible. -/
theorem Validator.errors_legible (v : Validator)
    (coded : ∀ x ∈ v.pieces, x.IsCoded Value.IsText) (named : ∀ x ∈ v.pieces, x.HasNames)
    (record : Value) : Yields (v.errors record) Value.Legible := by
  refine (check_checked areCodes_isText v coded record).bind
    fun parts ⟨entries, member, laid⟩ => .pure ?_
  cases parts with
  | nil => exact show (Value.dict []).Legible from .dict .nil (by simp) (by simp)
  | cons part parts =>
    refine (laid.reported member (by simp)).legible (fun _ isText => isText) fun own inside => ?_
    obtain ⟨serial, sub⟩ := v.pieces_of_nested inside
    exact ⟨serial, fun x hx => named x (sub hx)⟩

end RecordCheck
