import Mathlib
import RecordCheck.Proofs.Asking
import RecordCheck.Proofs.Calls
import RecordCheck.Proofs.Codes
import RecordCheck.Proofs.Registry

/-!
# The grammar of reports

What is reported about a record is a mapping from its fields, in the order of the ruleset, to
errors. An error is a code, a mapping of the same kind for a nested record, or a list with a slot
for each entry. Lists of one entry are kept only where the entry is a mapping, at every depth.

## Main definitions

* `Registry.IsCode`: codes of built-in rules, and codes that aliases report instead.
* `Reported`: the errors that rules report.
* `Registry.IsCoded`: what is not built in reports codes too.

## Main statements

* `Reported.collapse`: what is taken out of a list with one slot is an error.
* `Validator.errors_reported`: what a validator that was built reports follows the grammar.
-/
set_option autoImplicit false

namespace RecordCheck

open Act

/-- Codes that may be reported: those of built-in rules are among them, and null is none. -/
structure AreCodes (C : Value → Prop) : Prop where
  builtin : ∀ s ∈ Code.all, C (.str s)
  given : ∀ code, C code → code ≠ .null

/-- A code of a built-in rule, or one that an alias reports in place of its rules. -/
def Registry.IsCode (g : Registry) (code : Value) : Prop :=
  (∃ s ∈ Code.all, code = .str s) ∨
    (code.isStr ∧ ∃ name rules, g.find? name = some (.standsFor rules code))

theorem Registry.areCodes_isCode (g : Registry) : AreCodes g.IsCode where
  builtin s member := .inl ⟨s, member, rfl⟩
  given code isCode := by
    rcases isCode with ⟨s, -, rfl⟩ | ⟨isStr, -⟩
    · exact Value.noConfusion
    · rintro rfl
      cases isStr

/-- Fields with the rules for them. -/
abbrev FieldRules := List (Value × RuleSet)

mutual

/-- The fields that a rule checks in records inside a value, for each kind of record. The rules for
these fields may check further records inside of those. -/
def Rule.nested : Rule → List FieldRules
  | .object _ _ validator | .objects _ _ validator => validator.nested
  | .listOf _ _ _ rules | .all _ rules => rules.nested
  | _ => []

@[inherit_doc Rule.nested]
def RuleSet.nested : RuleSet → List FieldRules
  | .mk rules _ => rulesNested rules

def rulesNested : List Rule → List FieldRules
  | [] => []
  | rule :: rules => rule.nested ++ rulesNested rules

/-- The fields of a validator, or those of each of its cases. -/
def Validator.nested : Validator → List FieldRules
  | .fields _ entries => [entries]
  | .switch _ _ cases => casesNested cases

def casesNested : List (Value × Validator) → List FieldRules
  | [] => []
  | (_, validator) :: cases => validator.nested ++ casesNested cases

end

/-- The errors that rules with the given codes report about the given kinds of records: codes,
mappings from fields of one kind to errors of the rules for these fields, and lists with empty slots
and errors. Mappings and lists report something, and a list with one slot holds a mapping. -/
inductive Reported (C : Value → Prop) : List FieldRules → Value → Prop
  | code {kinds : List FieldRules} {code : Value} : C code → Reported C kinds code
  | fields {kinds : List FieldRules} {entries : FieldRules}
      {reported : List ((Value × RuleSet) × Value)} :
    entries ∈ kinds → reported ≠ [] → (reported.map (·.1)).Sublist entries →
      (∀ part ∈ reported, Reported C part.1.2.nested part.2) →
      Reported C kinds (.dict (reported.map fun part => (part.1.1, part.2)))
  | slots {kinds : List FieldRules} {slots : List Value} :
    (∃ slot ∈ slots, slot ≠ .null) → (∀ slot ∈ slots, slot ≠ .null → Reported C kinds slot) →
      (∀ slot, slots = [slot] → slot.isMapping) → Reported C kinds (.list slots)

namespace Report

theorem slotValues_eq (slots : List (Option Report)) :
    slotValues slots = slots.map fun slot => (slot.map toValue).getD .null := by
  induction slots with
  | nil => rfl
  | cons slot slots ih => cases slot <;> simp [slotValues, ih]

theorem fieldValues_eq (parts : List (Value × Report)) :
    fieldValues parts = parts.map fun part => (part.1, part.2.toValue) := by
  induction parts with
  | nil => rfl
  | cons part parts ih => simp [fieldValues, ih]

theorem isMapping_toValue {r : Report} (h : r.isMapping) : r.toValue.isMapping := by
  cases r with
  | code v => rw [toValue]; exact h
  | slots => cases h
  | fields => rw [toValue]; rfl

end Report

namespace Reported

variable {C : Value → Prop} {kinds more : List FieldRules}

theorem mono {v : Value} (h : Reported C kinds v) (sub : kinds ⊆ more) : Reported C more v := by
  induction h with
  | code isCode => exact .code isCode
  | fields member some order parts => exact .fields (sub member) some order parts
  | slots some each single ih =>
    exact .slots some (fun slot h given => ih slot h given sub) single

theorem ne_null (codes : AreCodes C) {v : Value} (h : Reported C kinds v) : v ≠ .null := by
  cases h with
  | code isCode => exact codes.given _ isCode
  | fields | slots => exact Value.noConfusion

theorem ofSlots (codes : AreCodes C) {slots : List (Option Report)}
    (some : slots.any Option.isSome)
    (each : ∀ r, Option.some r ∈ slots → Reported C kinds r.toValue)
    (single : ∀ r, slots = [Option.some r] → r.isMapping) :
    Reported C kinds (Report.slots slots).toValue := by
  rw [Report.toValue, Report.slotValues_eq]
  refine .slots ?_ ?_ ?_
  · obtain ⟨slot, member, isSome⟩ := List.any_eq_true.1 some
    obtain ⟨r, rfl⟩ := Option.isSome_iff_exists.1 isSome
    exact ⟨r.toValue, List.mem_map.2 ⟨_, member, rfl⟩, (each r member).ne_null codes⟩
  · intro v member given
    obtain ⟨slot, inside, rfl⟩ := List.mem_map.1 member
    cases slot with
    | none => exact absurd rfl given
    | some r => exact each r inside
  · intro v alone
    obtain ⟨slot, rfl, rfl⟩ := List.map_eq_singleton_iff.1 alone
    cases slot with
    | none => simp at some
    | some r => exact Report.isMapping_toValue (single r rfl)

end Reported

/-- What a rule hands on, before a lone report is taken out of its list. -/
def Payload (C : Value → Prop) (kinds : List FieldRules) : Report → Prop
  | .slots slots => slots.any Option.isSome ∧ ∀ r, some r ∈ slots → Reported C kinds r.toValue
  | report => Reported C kinds report.toValue

/-- A piece that reports one of the given codes, if it has a code of its own. -/
def Piece.IsCoded (C : Value → Prop) : Piece → Prop
  | .rule (.pattern m) => C m.error
  | .set (.mk _ override) => override = .null ∨ C override
  | _ => True

namespace Payload

variable {C : Value → Prop} {kinds more : List FieldRules}

theorem mono {report : Report} (h : Payload C kinds report) (sub : kinds ⊆ more) :
    Payload C more report := by
  cases report with
  | slots slots => exact ⟨h.1, fun r member => (h.2 r member).mono sub⟩
  | code | fields => exact Reported.mono h sub

theorem ofCode {code : Value} (h : C code) : Payload C kinds (.ofCode code) := by
  refine ⟨rfl, fun r member => ?_⟩
  cases List.mem_singleton.1 member
  exact .code h

theorem reportOf (codes : AreCodes C) {code : Option String} (known : Code.Known code) :
    ∀ report ∈ RecordCheck.reportOf code, Payload C kinds report := by
  rintro report member
  obtain ⟨s, given, rfl⟩ := Option.map_eq_some_iff.1 member
  exact ofCode (codes.builtin s (known s given))

theorem collapse (codes : AreCodes C) {report : Report} (h : Payload C kinds report) :
    Reported C kinds report.collapse.toValue := by
  cases report with
  | code | fields => exact h
  | slots slots =>
    obtain ⟨some, each⟩ := h
    by_cases alone : ∃ r, slots = [Option.some r]
    · obtain ⟨r, rfl⟩ := alone
      rw [Report.collapse]
      split
      · next mapping =>
        refine .ofSlots codes some each fun r' same => ?_
        cases same
        exact mapping
      · exact each r (by simp)
    · have kept : (Report.slots slots).collapse = .slots slots := by
        rw [Report.collapse]
        exact fun r same => alone ⟨r, Report.slots.inj same⟩
      rw [kept]
      exact .ofSlots codes some each fun r same => absurd ⟨r, same⟩ alone

theorem ofSlots {entries : List Value} {slots : List (Option Report)}
    (each : List.Forall₂ (fun _ slot => ∀ r ∈ slot, Reported C kinds r.toValue) entries slots) :
    ∀ report ∈ Report.ofSlots slots, Payload C kinds report := by
  intro report made
  unfold Report.ofSlots at made
  split at made
  · next some =>
    cases made
    refine ⟨some, fun r member => ?_⟩
    obtain ⟨_, _, reported⟩ := exists_partner each member
    exact reported r rfl
  · cases made

/-- What a set reports in place of the reports of its rules. -/
theorem overridden {override : Value} (code : override = .null ∨ C override)
    {report : Report} (h : Payload C kinds report) :
    Payload C kinds (RecordCheck.overridden override report) := by
  rcases code with rfl | isCode
  · exact h
  · cases override with
    | null => exact h
    | _ => exact ofCode isCode

end Payload

/-- What is reported about fields, for a part of the fields of a validator and in their order. -/
def Laid (C : Value → Prop) (entries : List (Value × RuleSet)) (parts : List (Value × Report)) :
    Prop :=
  ∃ reported : List ((Value × RuleSet) × Report),
    parts = reported.map (fun part => (part.1.1, part.2)) ∧
      (reported.map (·.1)).Sublist entries ∧
      ∀ part ∈ reported, Reported C part.1.2.nested part.2.toValue

namespace Laid

variable {C : Value → Prop} {entries : List (Value × RuleSet)} {parts : List (Value × Report)}

/-- Reports about fields make an error of the record when there are any. -/
theorem reported {kinds : List FieldRules} (h : Laid C entries parts) (member : entries ∈ kinds)
    (some : parts ≠ []) :
    Reported C kinds (Report.fields parts).toValue := by
  obtain ⟨reported, rfl, order, each⟩ := h
  rw [Report.toValue, Report.fieldValues_eq, List.map_map]
  have valued : List.map ((fun part : Value × Report => (part.1, part.2.toValue)) ∘
      fun part : (Value × RuleSet) × Report => (part.1.1, part.2)) reported =
      (reported.map fun part => (part.1, part.2.toValue)).map fun part => (part.1.1, part.2) := by
    simp
  rw [valued]
  refine .fields member (by simpa using some) (by simpa [Function.comp_def] using order)
    fun part inside => ?_
  obtain ⟨source, hs, rfl⟩ := List.mem_map.1 inside
  exact each source hs

end Laid

/-- What a validator reports, if anything, is about the fields of it or of one of its cases. -/
def Checked (C : Value → Prop) (validator : Validator) (parts : List (Value × Report)) : Prop :=
  ∃ entries ∈ validator.nested, Laid C entries parts

theorem Checked.ofFields {C : Value → Prop} {validator : Validator} {parts : List (Value × Report)}
    (h : Checked C validator parts) :
    ∀ r ∈ Report.ofFields parts, Reported C validator.nested r.toValue := by
  obtain ⟨entries, member, laid⟩ := h
  intro r made
  unfold Report.ofFields at made
  split at made
  · cases made
  · next some =>
    cases made
    exact laid.reported member (by simpa using some)

theorem Checked.payload {C : Value → Prop} {validator : Validator} {parts : List (Value × Report)}
    (h : Checked C validator parts) :
    ∀ r ∈ Report.ofFields parts, Payload C validator.nested r := by
  intro r made
  have reported := h.ofFields r made
  unfold Report.ofFields at made
  split at made
  · cases made
  · cases made
    exact reported

/-- An entry of a list of records is reported as a record is, or as none. -/
theorem slotOf_reported {C : Value → Prop} (codes : AreCodes C) {validator : Validator}
    {errors : Act (List (Value × Report))} (h : Yields errors (Checked C validator)) :
    Yields (slotOf errors) fun slot => ∀ r ∈ slot, Reported C validator.nested r.toValue := by
  refine Ensures.tryCatch (.map (h.mono (fun _ checked => checked.ofFields) fun _ h => h))
    fun e _ => ?_
  split
  · refine .pure fun r same => ?_
    cases same
    exact .code (codes.builtin Code.formatError (by decide))
  · exact .throw trivial

/-- A rule that looks for a pattern reports its code, or that it can not look. -/
theorem Match.apply_codes {m : Match} {v code : Value} (h : m.apply v = .ok (some code)) :
    code = m.error ∨ code = .str Code.formatError := by
  unfold apply at h
  split at h
  · cases ht : Error.textOf v with
    | error e => simp [ht, bind, Except.bind] at h
    | ok text =>
      cases hf : m.pattern.found text.toList with
      | error e => simp [ht, hf, bind, Except.bind] at h
      | ok found =>
        cases found <;> simp [ht, hf, bind, Except.bind, pure, Except.pure] at h
        exact .inl h.symm
  · cases h
    exact .inr rfl

/-! ## Whole trees of rules -/

section Tree

variable {C : Value → Prop}

mutual

theorem Rule.apply_payload (codes : AreCodes C) : (r : Rule) → (∀ x ∈ r.pieces, x.IsCoded C) →
    (v record : Value) →
    Yields (r.apply v record) fun found => ∀ report ∈ found, Payload C r.nested report
  | .blank test, _, v, _ =>
    (test.apply_coded v).yields.bind fun _ known => .pure (Payload.reportOf codes known)
  | .comparison c, _, v, record =>
    (c.apply_coded v record).bind fun _ known => .pure (Payload.reportOf codes known)
  | .length l, _, v, _ => (l.apply_coded v).bind fun _ known => .pure (Payload.reportOf codes known)
  | .shape test, _, v, _ =>
    (test.apply_coded v).yields.bind fun _ known => .pure (Payload.reportOf codes known)
  | .pattern m, h, v, _ => by
    have own : C m.error := h _ (Rule.self_mem_pieces _)
    refine Ensures.bind (P := fun code => ∀ c ∈ code, C c)
      (.lift (fun code applied c given => ?_) fun _ _ => trivial) fun code isCode => ?_
    · cases given
      rcases Match.apply_codes applied with rfl | rfl
      · exact own
      · exact codes.builtin Code.formatError (by decide)
    · refine .pure fun report member => ?_
      obtain ⟨c, given, rfl⟩ := Option.map_eq_some_iff.1 member
      exact Payload.ofCode (isCode c given)
  | .timezone zones, _, v, _ => .pure (Payload.reportOf codes (zoneCode?_known zones v))
  | .draft _, _, _, _ => .throw trivial
  | .object field entryField validator, h, v, _ => by
    rw [Rule.apply]
    split
    · refine .map ((Validator.check_checked codes validator (fun x hx => h x (.tail _ hx)) v).mono
        (fun parts checked report made => ?_) fun _ h => h)
      exact checked.payload report made
    · exact .pure (Payload.reportOf codes (Code.known_some (by decide)))
  | .listOf field serial entryField rules, h, v, record => by
    rw [Rule.apply_listOf]
    refine Value.eachEntry_ensures (S := fun _ slot => ∀ r ∈ slot, Reported C rules.nested r.toValue)
      (Payload.reportOf codes (Code.known_some (by decide))) (fun entry _ => .map ?_)
      fun _ _ each => Payload.ofSlots each
    refine (RuleSet.apply_payload codes rules (fun x hx => h x (.tail _ hx)) entry _).mono
      (fun found each r same => ?_) fun _ h => h
    obtain ⟨own, given, rfl⟩ := Option.map_eq_some_iff.1 same
    exact (each own given).collapse codes
  | .objects field entryField validator, h, v, record => by
    rw [Rule.apply_objects]
    exact Value.eachEntry_ensures
      (S := fun _ slot => ∀ r ∈ slot, Reported C validator.nested r.toValue)
      (Payload.reportOf codes (Code.known_some (by decide)))
      (fun entry _ => slotOf_reported codes
        (Validator.check_checked codes validator (fun x hx => h x (.tail _ hx)) entry))
      fun _ _ each => Payload.ofSlots each
  | .all serial rules, h, v, record =>
    RuleSet.apply_payload codes rules (fun x hx => h x (.tail _ hx)) v record

theorem RuleSet.apply_payload (codes : AreCodes C) : (s : RuleSet) → (∀ x ∈ s.pieces, x.IsCoded C) →
    (v record : Value) →
    Yields (s.apply v record) fun found => ∀ report ∈ found, Payload C s.nested report
  | .mk rules override, h, v, record => by
    refine (firstReport_payload codes rules (fun x hx => h x (.tail _ hx)) v record).bind
      fun found each => .pure fun report member => ?_
    obtain ⟨own, given, rfl⟩ := Option.map_eq_some_iff.1 member
    exact (each own given).overridden (h _ (RuleSet.self_mem_pieces _))

theorem firstReport_payload (codes : AreCodes C) : (rules : List Rule) →
    (∀ x ∈ rulePieces rules, x.IsCoded C) → (v record : Value) →
    Yields (firstReport rules v record) fun found =>
      ∀ report ∈ found, Payload C (rulesNested rules) report
  | [], _, _, _ => .pure nofun
  | rule :: rules, h, v, record => by
    obtain ⟨first, others⟩ := List.forall_mem_append.1 h
    have rest : Yields (firstReport rules v record) fun found =>
        ∀ report ∈ found, Payload C (rulesNested (rule :: rules)) report :=
      (firstReport_payload codes rules others v record).mono
        (fun found each report member => (each report member).mono (List.subset_append_right _ _))
        fun _ h => h
    rw [firstReport]
    split
    · exact rest
    · refine (Rule.apply_payload codes rule first v record).bind fun found each => ?_
      cases found with
      | some report =>
        refine .pure fun other same => ?_
        cases same
        exact (each report rfl).mono (List.subset_append_left _ _)
      | none => exact rest

theorem Validator.check_checked (codes : AreCodes C) : (validator : Validator) →
    (∀ x ∈ validator.pieces, x.IsCoded C) → (record : Value) →
    Yields (validator.check record) (Checked C validator)
  | .fields serial entries, h, record => by
    rw [Validator.check]
    split
    · exact (reports_laid codes entries (fun x hx => h x (.tail _ hx)) record).mono
        (fun parts laid => ⟨entries, List.mem_singleton_self _, laid⟩) fun _ h => h
    · exact .throw trivial
  | .switch serial field cases, h, record => by
    rw [Validator.check]
    split
    · refine (yields_any _).bind fun v _ => ?_
      dsimp only
      split
      · exact checkCase_checked codes cases (fun x hx => h x (.tail _ hx)) v record _
      · exact .throw trivial
    · exact .throw trivial

theorem reports_laid (codes : AreCodes C) : (entries : List (Value × RuleSet)) →
    (∀ x ∈ fieldPieces entries, x.IsCoded C) → (record : Value) →
    Yields (reports entries record) (Laid C entries)
  | [], _, _ => .pure ⟨[], rfl, .slnil, by simp⟩
  | (field, rules) :: entries, h, record => by
    obtain ⟨first, others⟩ := List.forall_mem_append.1 h
    rw [reports]
    refine (yields_any _).bind fun v _ => ?_
    refine (RuleSet.apply_payload codes rules first v record).bind fun found each => ?_
    refine (reports_laid codes entries others record).bind
      fun rest ⟨reported, same, order, all⟩ => ?_
    cases found with
    | none => exact .pure ⟨reported, same, order.cons _, all⟩
    | some report =>
      refine .pure ⟨((field, rules), report.collapse) :: reported, by simp [same], ?_, ?_⟩
      · simpa using order.cons_cons (field, rules)
      · exact List.forall_mem_cons.2 ⟨(each report rfl).collapse codes, all⟩

theorem checkCase_checked (codes : AreCodes C) : (cases : List (Value × Validator)) →
    (∀ x ∈ casePieces cases, x.IsCoded C) → (v record : Value) → (missing : Error) →
    Yields (checkCase cases v record missing) fun parts =>
      ∃ entries ∈ casesNested cases, Laid C entries parts
  | [], _, _, _, _ => .throw trivial
  | (key, validator) :: cases, h, v, record, missing => by
    obtain ⟨first, others⟩ := List.forall_mem_append.1 h
    rw [checkCase]
    split
    · exact (Validator.check_checked codes validator first record).mono
        (fun parts ⟨entries, member, laid⟩ => ⟨entries, List.mem_append_left _ member, laid⟩)
        fun _ h => h
    · exact (checkCase_checked codes cases others v record missing).mono
        (fun parts ⟨entries, member, laid⟩ => ⟨entries, List.mem_append_right _ member, laid⟩)
        fun _ h => h

end

end Tree

/-! ## Validators that were built -/

/-- What built-in rules are made of reports codes. -/
theorem Builtin.make_coded {C : Value → Prop} (codes : AreCodes C) (b : Builtin)
    (args : List Value) : Yields (b.make args) (Made (fun _ => True) (Piece.IsCoded C)) := by
  refine (make_makes b args).mono (fun rule made => ?_) fun _ h => h
  cases made with
  | format known =>
    have coded {m : Match} {s : String} (own : m.error = .str s) (among : s ∈ Code.all) :
        ∀ x ∈ (Rule.pattern m).pieces, x.IsCoded C :=
      List.forall_mem_singleton.2 (own ▸ codes.builtin s among : C m.error)
    rcases List.mem_cons.1 known with rfl | known
    · exact coded rfl (by decide)
    rcases List.mem_cons.1 known with rfl | known
    · exact coded rfl (by decide)
    · rw [List.mem_singleton.1 known]
      exact coded rfl (by decide)
  | @like m own _ =>
    exact List.forall_mem_singleton.2 (own ▸ codes.builtin _ (by decide) : C m.error)
  | draft _ => trivial
  | _ => exact List.forall_mem_singleton.2 trivial

/-- The codes of aliases, and of the rules that a program makes in ways of its own, have a
property. -/
structure Registry.IsCoded (g : Registry) (C : Value → Prop) : Prop where
  standsFor : ∀ name rules override, g.find? name = some (.standsFor rules override) →
    override = .null ∨ C override
  custom : ∀ name make, g.find? name = some (.custom make) → ∀ args,
    Yields (make args) fun made => ∀ rule ∈ made, Made (fun _ => True) (Piece.IsCoded C) rule

namespace Registry

variable {g : Registry} {C : Value → Prop}

theorem IsCoded.upholds (coded : g.IsCoded C) (codes : AreCodes C) :
    g.Upholds (fun _ => True) (Piece.IsCoded C) where
  hereditary := ⟨trivial, fun _ _ _ => trivial, fun _ _ _ => trivial⟩
  builtin b args _ := b.make_coded codes args
  custom name make found args _ := coded.custom name make found args
  standsFor name rules override found := ⟨trivial, fun _ => coded.standsFor name rules _ found⟩
  composed rule h := by
    cases rule with
    | object | listOf | objects | all => trivial
    | _ => exact h.elim
  set _ := .inl rfl
  fields _ _ _ _ := trivial
  switch _ _ _ _ := trivial

theorem IsStandard.isCoded (standard : g.IsStandard fun _ => True)
    (given : ∀ name rules override, g.find? name = some (.standsFor rules override) →
      override.isStr → C override) : g.IsCoded C where
  standsFor name rules override found :=
    (standard.find? found).2.imp_right (given name rules override found)
  custom _ _ found := (standard.find? found).elim

end Registry

/-- What a validator reports about a record is a mapping from fields of its ruleset, in their order,
to errors that the rules for these fields report. -/
theorem Validator.errors_reported {g : Registry} {ruleset record errors : Value} {v : Validator}
    {before ledger : Ledger} (standard : g.IsStandard fun _ => True)
    (built : outcome (g.build [] ruleset) before = .ok v)
    (validated : outcome (v.errors record) ledger = .ok errors) :
    ∃ entries parts, v = .fields 0 entries ∧ errors = .dict parts ∧
      (parts.map (·.1)).Sublist (Registry.fieldsOf ruleset) ∧
      ∀ part ∈ parts, ∃ rules, (part.1, rules) ∈ entries ∧
        Reported g.IsCode rules.nested part.2 := by
  have own : g.IsCoded g.IsCode :=
    standard.isCoded fun name rules _ found isStr => .inr ⟨isStr, name, rules, found⟩
  have coded : ∀ x ∈ v.pieces, x.IsCoded g.IsCode :=
    (Registry.build_upholds (own.upholds g.areCodes_isCode) (by simp) trivial).of_ok built
  obtain ⟨entries, rfl, keys⟩ := (Registry.build_fields ruleset).of_ok built
  obtain ⟨parts, checked, made⟩ := outcome_bind_ok.1 validated
  have reported : Laid g.IsCode entries parts := by
    rw [check] at checked
    split at checked
    · exact (reports_laid g.areCodes_isCode entries (fun x hx => coded x (.tail _ hx))
        record).of_ok checked
    · cases checked
  obtain ⟨source, rfl, order, each⟩ := reported
  cases made
  refine ⟨entries, source.map fun part => (part.1.1, part.2.toValue), rfl, ?_, ?_, ?_⟩
  · simp [Report.toValue, Report.fieldValues_eq]
  · have fields := order.map (·.1)
    rw [List.map_map] at fields ⊢
    exact fields.trans keys
  · intro part member
    obtain ⟨known, hs, rfl⟩ := List.mem_map.1 member
    exact ⟨known.1.2, order.subset (List.mem_map_of_mem hs), each known hs⟩

/-- A list with an entry that fails and one that passes, where an alias has a code of its own. -/
theorem Validator.errors_reported_of_list :
    let rules := Value.list [.str "required", .str "integer"]
    let g := (({} : Registry).registerAlias (.str "whole") rules (.str "BAD")).registry
    let ruleset := Value.dict [(.str "f", .dict [(.str "list_of", .list [.str "whole"])])]
    let v := Validator.fields 0 [(.str "f", .mk [.listOf .null 0 "entry" (.mk
      [.all 0 (.mk [.blank .required, .comparison { operator := .integer }] (.str "BAD"))] .null)]
      .null)]
    let record := Value.dict [(.str "f", .list [.int 1, .str "x"])]
    let errors := Value.dict [(.str "f", .list [.null, .str "BAD"])]
    g.IsStandard (fun _ => True) ∧ outcome (g.build [] ruleset) {} = .ok v ∧
      outcome (v.errors record) {} = .ok errors ∧
      ∃ entries parts, v = .fields 0 entries ∧ errors = .dict parts ∧
        (parts.map (·.1)).Sublist (Registry.fieldsOf ruleset) ∧
        ∀ part ∈ parts, ∃ rules, (part.1, rules) ∈ entries ∧
          Reported g.IsCode rules.nested part.2 := by
  intro rules g ruleset v record errors
  have standard : g.IsStandard fun _ => True :=
    (Registry.IsStandard.builtins "entry" true).registerAlias (.str "whole") trivial (.inr rfl)
  have listOf : g.find? (Call.mk "list_of" (.list [.str "whole"])).name = some (.builtin .listOf) :=
    rfl
  have whole : g.find? (Call.mk "whole" .null).name = some (.standsFor rules (.str "BAD")) := rfl
  have required : g.find? (Call.mk "required" .null).name = some (.builtin .required) := rfl
  have integer : g.find? (Call.mk "integer" .null).name = some (.builtin .integer) := rfl
  have built : outcome (g.build [] ruleset) {} = .ok v := by
    simp [Registry.build, Registry.buildWithin_dict, Registry.parseWithin_eq,
      Description.listCalls, Registry.callWithin,
      Registry.ruleWithin_draft listOf rfl (List.mem_singleton_self _), Registry.finishWithin,
      Registry.ruleWithin_eq, Registry.makeWithin_standsFor whole rfl List.not_mem_nil,
      Registry.makeWithin_builtin required, Registry.makeWithin_builtin integer,
      Registry.completeWithin, Builtin.make, Call.arguments, Keyed.putAll, Keyed.put,
      RuleSet.withOverride, RuleSet.rules, v, ruleset, rules]
    rfl
  have validated : outcome (v.errors record) {} = .ok errors := by cbv
  exact ⟨standard, built, validated, errors_reported standard built validated⟩

end RecordCheck
