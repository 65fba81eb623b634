import Mathlib
import RecordCheck.Proofs.Asking
import RecordCheck.Proofs.Calls
import RecordCheck.Proofs.Fit
import RecordCheck.Proofs.Registry

/-!
# Validation comes to a result

What is wrong with a record is reported, whatever shape its values have. A validator that was read
from plain data fails on a record in three ways only: the record is none, an entry of a list has no
case, or the search for a pattern remembers a group from a later place to an earlier one.

## Main definitions

* `Interrupts`: what may keep a validation from a report.

## Main statements

* `Validator.errors_interrupted`: a validator that was built gives a report, is shown no record, or
  is interrupted.
* `Validator.errors_like_tangled`: a pattern that remembers a group the wrong way does interrupt.
-/
set_option autoImplicit false

namespace RecordCheck

open Act

/-- A record for which a switch has no case, and the error that tells so. -/
def Validator.Unmatched : Validator → Value → Error → Prop
  | .fields .., _, _ => False
  | .switch _ field cases, record, e =>
    record.isRecord ∧ Validator.choose field cases record = .error e ∧
      ∃ v, e = .noCase field v

theorem Validator.not_unmatched {validator : Validator} (flat : validator.isFlat) {record : Value}
    {e : Error} : ¬ validator.Unmatched record e := by
  cases validator with
  | fields => exact id
  | switch => cases flat

/-- What may keep rules from a report about a value, with the error that it gives. -/
inductive Interrupts (pieces : List Piece) (v : Value) : Error → Prop
  /-- An entry of a list of records of several kinds has no case. -/
  | noCase {label entryField list entry : Value} {validator : Validator} {e : Error} :
    .rule (.objects label entryField validator) ∈ pieces → v.Reaches list →
      entry ∈ list.listed → validator.Unmatched entry e → Interrupts pieces v e
  /-- A group is remembered from a later place to an earlier one in the text of a scalar. -/
  | tangled {m : Match} {w : Value} {text : String} :
    .rule (.pattern m) ∈ pieces → v.Reaches w → w.isScalar → Error.textOf w = .ok text →
      m.pattern.found text.toList = .error (.fault .internal) →
      Interrupts pieces v (.fault .internal)

/-- More rules that are asked about more values are interrupted by what interrupts some. -/
theorem Interrupts.mono {pieces more : List Piece} {v w : Value} {e : Error}
    (h : Interrupts pieces v e) (sub : pieces ⊆ more) (reaches : ∀ x, v.Reaches x → w.Reaches x) :
    Interrupts more w e := by
  cases h with
  | noCase member reached entry unmatched =>
    exact .noCase (sub member) (reaches _ reached) entry unmatched
  | tangled member reached scalar text tangled =>
    exact .tangled (sub member) (reaches _ reached) scalar text tangled

/-- A piece that gives an answer about any value, as far as that depends on no other piece. -/
abbrev Piece.Answers (x : Piece) : Prop := x.IsFit ∧ x.IsPlain

/-- An action that gives a result if nothing interrupts rules that are asked about a value. -/
abbrev Completes {α : Type} (a : Act α) (pieces : List Piece) (v : Value) : Prop :=
  Ensures a (fun _ => True) (Interrupts pieces v)

theorem Act.Total.completes {α : Type} {a : Act α} {pieces : List Piece} {v : Value}
    (total : Act.Total a) : Completes a pieces v :=
  total.mono (fun _ h => h) fun _ h => h.elim

/-! ## Rules without others inside -/

/-- A search in text fails only by what it remembers. -/
theorem Pattern.found_error {p : Pattern} (isText : p.isText) {text : List Char} {e : Error}
    (failed : p.found text = .error e) : e = .fault .internal := by
  simp only [found, isText, Bool.not_true, Bool.false_eq_true, if_false] at failed
  split at failed
  · cases failed
  · split at failed <;> cases failed
    rfl

/-- A search that fails makes its rule fail. -/
theorem Match.apply_tangled {m : Match} {v : Value} {text : String} {e : Error}
    (scalar : v.isScalar) (written : Error.textOf v = .ok text)
    (failed : m.pattern.found text.toList = .error e) : m.apply v = .error e := by
  simp [apply, scalar, written, failed, bind, Except.bind]

theorem Match.apply_completes {m : Match} (isText : m.pattern.isText) {v : Value}
    (writable : v.isWritable) :
    Completes (liftM (m.apply v)) (Rule.pattern m).pieces v := by
  refine .lift (fun _ _ => trivial) fun e failed => ?_
  unfold apply at failed
  split at failed
  · next scalar =>
    obtain ⟨text, ht⟩ := Value.textOf_ok writable
    rw [ht] at failed
    change (m.pattern.found text.toList >>= fun b => _) = _ at failed
    cases found : m.pattern.found text.toList with
    | ok b => simp [found, bind, Except.bind, pure, Except.pure] at failed
    | error cause =>
      obtain rfl := Pattern.found_error isText found
      rw [found] at failed
      cases failed
      exact .tangled (Rule.self_mem_pieces _) (.refl v) scalar ht found
  · cases failed

/-! ## Lists and switches -/

/-- What keeps the check of a record from a result: it is no record, there is no case for it, or
the rules for its fields are interrupted. -/
def Validator.Fails (validator : Validator) (record : Value) (e : Error) : Prop :=
  (e = .unvalidatable record.kind ∧ record.isRecord = false) ∨ validator.Unmatched record e ∨
    Interrupts validator.pieces record e

/-- An entry that is no record fills its slot. -/
theorem slotOf_completes {errors : Act (List (Value × Report))} {validator : Validator}
    {entry : Value} (checked : Ensures errors (fun _ => True) (validator.Fails entry)) :
    Ensures (slotOf errors) (fun _ => True)
      fun e => validator.Unmatched entry e ∨ Interrupts validator.pieces entry e := by
  refine Ensures.tryCatch (.map checked) fun e failed => ?_
  rcases failed with ⟨rfl, -⟩ | other
  · exact .pure trivial
  · split
    · exact .pure trivial
    · exact .throw other

theorem Value.field_ok {name : Value} (named : name.isStr) (record : Value) :
    ∃ v, record.field name = .ok v ∧ record.field? name = some v := by
  obtain ⟨v, read⟩ := field?_isSome named record
  exact ⟨v, by rw [field, read], read⟩

/-- A case that is missing can be told in a message. -/
theorem Error.ofMissingCase_eq {field v : Value} (named : field.isStr) (writable : v.isWritable) :
    ofMissingCase field v = .noCase field v := by
  have plain : field.isWritable := by
    cases field with
    | str _ | brokenStr _ => rfl
    | _ => cases named
  obtain ⟨_, hf⟩ := Value.textOf_ok plain
  obtain ⟨_, hv⟩ := Value.textOf_ok writable
  rw [ofMissingCase, hf, hv]

/-- The case for a value is the one that is found under it. -/
theorem checkCase_eq (cases : List (Value × Validator)) (v record : Value) (missing : Error) :
    checkCase cases v record missing =
      match Keyed.find? v cases with
      | some validator => validator.check record
      | none => throw missing := by
  induction cases with
  | nil => rw [checkCase, Keyed.find?]
  | cons case rest ih =>
    obtain ⟨key, validator⟩ := case
    rw [checkCase, Keyed.find?, ih]
    split <;> rfl

/-! ## Whole trees of rules -/

mutual

theorem Rule.apply_completes : (r : Rule) → (∀ x ∈ r.pieces, x.Answers) → (v record : Value) →
    v.isWritable → Completes (r.apply v record) r.pieces v
  | .blank test, h, v, _, _ => by
    obtain ⟨code, ok⟩ := BlankTest.apply_ok (h _ (Rule.self_mem_pieces _)).1 v
    exact Ensures.bind (Act.Total.of_ok ok).completes fun _ _ => .pure trivial
  | .comparison c, h, v, record, _ => by
    obtain ⟨fit, plain⟩ := h _ (Rule.self_mem_pieces (.comparison c))
    exact Ensures.bind (Comparison.apply_total fit plain v record).completes
      fun _ _ => .pure trivial
  | .length l, h, v, _, _ => by
    obtain ⟨fit, plain⟩ := h _ (Rule.self_mem_pieces (.length l))
    exact Ensures.bind (Length.apply_total fit plain v).completes fun _ _ => .pure trivial
  | .shape test, h, v, _, _ => by
    obtain ⟨code, ok⟩ := ShapeTest.apply_ok (h _ (Rule.self_mem_pieces _)).1 v
    exact Ensures.bind (Act.Total.of_ok ok).completes fun _ _ => .pure trivial
  | .pattern m, h, v, _, writable =>
    Ensures.bind (Match.apply_completes (h _ (Rule.self_mem_pieces _)).1 writable)
      fun _ _ => .pure trivial
  | .timezone _, _, _, _, _ => .pure trivial
  | .draft _, h, _, _, _ => (h _ (Rule.self_mem_pieces _)).1.elim
  | .object field entryField validator, h, v, _, writable => by
    have flat : validator.isFlat := (h _ (Rule.self_mem_pieces _)).1
    rw [Rule.apply]
    split
    · next mapping =>
      refine .map ((Validator.check_fails validator (fun x hx => h x (.tail _ hx)) v
        writable).mono (fun _ h => h) fun e failed => ?_)
      -- A mapping is a record, and flat validators have no cases that could be missing.
      rcases failed with ⟨rfl, noRecord⟩ | unmatched | inner
      · cases v <;> simp_all [Value.isMapping, Value.isRecord]
      · exact absurd unmatched (Validator.not_unmatched flat)
      · exact inner.mono (List.subset_cons_self _ _) fun _ h => h
    · exact .pure trivial
  | .listOf field serial entryField rules, h, v, record, writable => by
    rw [Rule.apply_listOf]
    refine Value.eachEntry_ensures (S := fun _ _ => True) trivial (fun entry inside => ?_)
      fun _ _ _ => trivial
    refine .map ((RuleSet.apply_completes rules (fun x hx => h x (.tail _ hx)) entry _
      (Value.isWritable_of_mem_listed writable inside)).mono (fun _ h => h) fun e failed => ?_)
    exact failed.mono (List.subset_cons_self _ _) fun _ reached => .entry inside reached
  | .objects field entryField validator, h, v, record, writable => by
    rw [Rule.apply_objects]
    refine Value.eachEntry_ensures (S := fun _ _ => True) trivial (fun entry inside => ?_)
      fun _ _ _ => trivial
    refine (slotOf_completes (Validator.check_fails validator (fun x hx => h x (.tail _ hx)) entry
      (Value.isWritable_of_mem_listed writable inside))).mono (fun _ h => h) fun e failed => ?_
    rcases failed with unmatched | inner
    · exact .noCase (Rule.self_mem_pieces _) (.refl v) inside unmatched
    · exact inner.mono (List.subset_cons_self _ _) fun _ reached => .entry inside reached
  | .all serial rules, h, v, record, writable => by
    refine (RuleSet.apply_completes rules (fun x hx => h x (.tail _ hx)) v record writable).mono
      (fun _ h => h) fun e failed => ?_
    exact failed.mono (List.subset_cons_self _ _) fun _ h => h

theorem RuleSet.apply_completes : (s : RuleSet) → (∀ x ∈ s.pieces, x.Answers) →
    (v record : Value) → v.isWritable → Completes (s.apply v record) s.pieces v
  | .mk rules override, h, v, record, writable => by
    refine Ensures.bind ((firstReport_completes rules (fun x hx => h x (.tail _ hx)) v record
      writable).mono (fun _ h => h) fun e failed => ?_) fun _ _ => .pure trivial
    exact failed.mono (List.subset_cons_self _ _) fun _ h => h

theorem firstReport_completes : (rules : List Rule) → (∀ x ∈ rulePieces rules, x.Answers) →
    (v record : Value) → v.isWritable → Completes (firstReport rules v record) (rulePieces rules) v
  | [], _, _, _, _ => .pure trivial
  | rule :: rules, h, v, record, writable => by
    obtain ⟨first, others⟩ := List.forall_mem_append.1 h
    have rest : Completes (firstReport rules v record) (rulePieces (rule :: rules)) v :=
      (firstReport_completes rules others v record writable).mono (fun _ h => h)
        fun e failed => failed.mono (List.subset_append_right _ _) fun _ h => h
    rw [firstReport]
    split
    · exact rest
    · refine Ensures.bind ((Rule.apply_completes rule first v record writable).mono (fun _ h => h)
        fun e failed => failed.mono (List.subset_append_left _ _) fun _ h => h) fun found _ => ?_
      cases found with
      | some report => exact .pure trivial
      | none => exact rest

theorem Validator.check_fails : (validator : Validator) → (∀ x ∈ validator.pieces, x.Answers) →
    (record : Value) → record.isWritable →
    Ensures (validator.check record) (fun _ => True) (validator.Fails record)
  | .fields serial entries, h, record, writable => by
    rw [Validator.check]
    split
    · next isRecord =>
      have named : ∀ entry ∈ entries, entry.1.isStr := (h _ (Validator.self_mem_pieces _)).1
      refine (reports_completes entries named (fun x hx => h x (.tail _ hx)) record isRecord
        writable).mono (fun _ h => h) fun e failed => ?_
      exact .inr (.inr (failed.mono (List.subset_cons_self _ _) fun _ h => h))
    · next noRecord => exact .throw (.inl ⟨rfl, by simpa using noRecord⟩)
  | .switch serial field cases, h, record, writable => by
    have named : field.isStr := (h _ (Validator.self_mem_pieces _)).2
    rw [Validator.check]
    split
    · next isRecord =>
      obtain ⟨v, read, found⟩ := Value.field_ok named record
      have missing := Error.ofMissingCase_eq named (Value.isWritable_field writable isRecord found)
      have choice : Validator.choose field cases record =
          match if v.isHashable then Keyed.find? v cases else none with
          | some validator => .ok validator
          | none => .error (.noCase field v) := by
        simp only [Validator.choose, read, bind, Except.bind, missing]
        rfl
      have noCase (none : (if v.isHashable then Keyed.find? v cases else none) = none) :
          (Validator.switch serial field cases).Unmatched record (.noCase field v) := by
        rw [none] at choice
        exact ⟨isRecord, choice, v, rfl⟩
      rw [read]
      refine Ensures.bind (P := (· = v)) (.pure rfl) fun _ same => ?_
      subst same
      simp only [missing]
      split
      · next hashable =>
        rw [checkCase_eq]
        split
        · next validator chosen =>
          obtain ⟨key, member⟩ := Keyed.mem_of_find? chosen
          refine (cases_fail cases (fun x hx => h x (.tail _ hx)) record writable _ member).mono
            (fun _ h => h) fun e failed => ?_
          rcases failed with ⟨-, noRecord⟩ | unmatched | inner
          · exact absurd isRecord (by simp [noRecord])
          · have flat : validator.isFlat := (h _ (Validator.self_mem_pieces _)).1 _ member
            exact absurd unmatched (Validator.not_unmatched flat)
          · exact .inr (.inr (inner.mono (fun x hx => .tail _ (mem_casePieces.2 ⟨_, member, hx⟩))
              fun _ h => h))
        · next none => exact .throw (.inr (.inl (noCase (by simp [none]))))
      · next unhashable => exact .throw (.inr (.inl (noCase (by simp [unhashable]))))
    · next noRecord => exact .throw (.inl ⟨rfl, by simpa using noRecord⟩)

theorem cases_fail : (cases : List (Value × Validator)) → (∀ x ∈ casePieces cases, x.Answers) →
    (record : Value) → record.isWritable → ∀ case ∈ cases,
      Ensures (case.2.check record) (fun _ => True) (case.2.Fails record)
  | [], _, _, _, _, member => nomatch member
  | (key, validator) :: cases, h, record, writable, case, member => by
    obtain ⟨first, others⟩ := List.forall_mem_append.1 h
    rcases List.mem_cons.1 member with rfl | member
    · exact Validator.check_fails validator first record writable
    · exact cases_fail cases others record writable case member

theorem reports_completes : (entries : List (Value × RuleSet)) →
    (∀ entry ∈ entries, entry.1.isStr) → (∀ x ∈ fieldPieces entries, x.Answers) →
    (record : Value) → record.isRecord → record.isWritable →
    Completes (reports entries record) (fieldPieces entries) record
  | [], _, _, _, _, _ => .pure trivial
  | (field, rules) :: entries, named, h, record, isRecord, writable => by
    obtain ⟨first, others⟩ := List.forall_mem_append.1 h
    obtain ⟨v, read, found⟩ := Value.field_ok (named _ (.head _)) record
    rw [reports, read]
    refine Ensures.bind (P := (· = v)) (.pure rfl) fun _ same => ?_
    subst same
    refine Ensures.bind ((RuleSet.apply_completes rules first _ record
      (Value.isWritable_field writable isRecord found)).mono (fun _ h => h) fun e failed =>
        failed.mono (List.subset_append_left _ _) fun _ reached => .field isRecord found reached)
      fun _ _ => ?_
    refine Ensures.bind ((reports_completes entries (fun entry he => named entry (.tail _ he))
      others record isRecord writable).mono (fun _ h => h) fun e failed =>
        failed.mono (List.subset_append_right _ _) fun _ h => h) fun _ _ => .pure trivial

end

/-! ## Validators that were built -/

/-- What built-in rules make of plain data can be applied to any value. -/
theorem Registry.IsStandard.upholds_isFit {g : Registry} (standard : g.IsStandard (·.isJson)) :
    g.Upholds (·.isJson) Piece.IsFit where
  hereditary := Value.hereditary_isJson
  builtin b args json := by
    refine (Builtin.make_makes b args).mono (fun rule made => ?_) fun _ h => h
    cases made with
    | blank fit | comparison fit | length fit | shape fit => exact List.forall_mem_singleton.2 fit
    | format known =>
      refine List.forall_mem_singleton.2 (?_ : (_ : Match).pattern.isText)
      rcases List.mem_cons.1 known with rfl | known
      · rfl
      rcases List.mem_cons.1 known with rfl | known
      · rfl
      · rw [List.mem_singleton.1 known]
        rfl
    | like _ isText =>
      refine List.forall_mem_singleton.2 (?_ : (_ : Match).pattern.isText)
      rcases isText with isText | ⟨data, bytes⟩
      · exact isText
      · have := json _ bytes
        simp [Value.isJson] at this
    | timezone => exact List.forall_mem_singleton.2 trivial
    | draft described => exact json _ described
  custom name make found := (standard.find? found).elim
  standsFor name rules override found := ⟨(standard.find? found).1, fun _ => trivial⟩
  composed rule h := by
    cases rule with
    | object | listOf | objects | all => exact h
    | _ => exact h.elim
  set _ := trivial
  fields serial entries keys _ entry member := by
    obtain ⟨source, json, known, inside, same⟩ := keys entry member
    rw [Value.isJson] at json
    exact same ▸ (Value.entriesJson_iff.1 json known inside).1
  switch serial field cases flat := flat

/-- A validator that was built from plain data, with aliases for plain data, gives a report about a
record, is shown no record, or is interrupted: an entry of a list of records of several kinds has no
case, or a pattern remembers a group from a later place to an earlier one. -/
theorem Validator.errors_interrupted {g : Registry} {ruleset record : Value} {v : Validator}
    {before ledger : Ledger} (standard : g.IsStandard (·.isJson)) (json : ruleset.isJson)
    (built : outcome (g.build [] ruleset) before = .ok v) (plain : ∀ x ∈ v.pieces, x.IsPlain)
    (writable : record.isWritable) :
    (∃ report, outcome (v.errors record) ledger = .ok report) ∨
      (outcome (v.errors record) ledger = .error (.unvalidatable record.kind) ∧
        record.isRecord = false) ∨
      ∃ e, outcome (v.errors record) ledger = .error e ∧ Interrupts v.pieces record e := by
  have fit : ∀ x ∈ v.pieces, x.IsFit :=
    (Registry.build_upholds standard.upholds_isFit (by simp) json).of_ok built
  obtain ⟨entries, rfl, -⟩ := (Registry.build_fields ruleset).of_ok built
  have checked := Validator.check_fails _ (fun x hx => ⟨fit x hx, plain x hx⟩) record writable
  have reported : Ensures ((Validator.fields 0 entries).errors record) (fun _ => True)
      ((Validator.fields 0 entries).Fails record) := Ensures.bind checked fun _ _ => .pure trivial
  cases result : outcome ((Validator.fields 0 entries).errors record) ledger with
  | ok report => exact .inl ⟨report, rfl⟩
  | error e =>
    rcases reported.of_error result with ⟨rfl, noRecord⟩ | unmatched | interrupted
    · exact .inr (.inl ⟨rfl, noRecord⟩)
    · exact unmatched.elim
    · exact .inr (.inr ⟨e, rfl, interrupted⟩)

/-- The rules of an alias are what the validator has in its place. -/
theorem Validator.errors_interrupted_of_alias :
    let g := (({} : Registry).registerAlias (.str "whole") (.list [.str "required", .str "integer"])
      (.str "BAD")).registry
    let v := Validator.fields 0 [(.str "f", .mk
      [.all 0 (.mk [.blank .required, .comparison { operator := .integer }] (.str "BAD"))] .null)]
    let record := Value.dict [(.str "f", .str "x")]
    g.IsStandard (·.isJson) ∧ outcome (g.build [] (.dict [(.str "f", .str "whole")])) {} = .ok v ∧
      (∀ x ∈ v.pieces, x.IsPlain) ∧ record.isWritable ∧
      ((∃ report, outcome (v.errors record) {} = .ok report) ∨
        (outcome (v.errors record) {} = .error (.unvalidatable record.kind) ∧
          record.isRecord = false) ∨
        ∃ e, outcome (v.errors record) {} = .error e ∧ Interrupts v.pieces record e) := by
  intro g v record
  have standard : g.IsStandard (·.isJson) :=
    (Registry.IsStandard.builtins "entry" true).registerAlias _ rfl (.inr rfl)
  have whole : g.find? (Call.mk "whole" .null).name =
    some (.standsFor (.list [.str "required", .str "integer"]) (.str "BAD")) := rfl
  have required : g.find? (Call.mk "required" .null).name = some (.builtin .required) := rfl
  have integer : g.find? (Call.mk "integer" .null).name = some (.builtin .integer) := rfl
  have built : outcome (g.build [] (.dict [(.str "f", .str "whole")])) {} = .ok v := by
    simp [Registry.build, Registry.buildWithin_dict, Registry.parseWithin_eq,
      Description.listCalls, Registry.callWithin, Registry.ruleWithin_eq,
      Registry.completeWithin,
      Registry.makeWithin_standsFor whole rfl List.not_mem_nil,
      Registry.makeWithin_builtin required, Registry.makeWithin_builtin integer, Call.arguments,
      Builtin.make, Keyed.putAll, Keyed.put, RuleSet.withOverride, RuleSet.rules, v]
  have plain : ∀ x ∈ v.pieces, x.IsPlain := by
    simp [v, Validator.pieces, fieldPieces, RuleSet.pieces, rulePieces, Rule.pieces, Piece.IsPlain]
  exact ⟨standard, built, plain, rfl, errors_interrupted standard rfl built plain rfl⟩

/-! ## Patterns that remember groups the wrong way -/

/-- The validator for a field that a pattern is to be found in. -/
theorem Registry.build_like {g : Registry} (like : g.find? "like" = some (.builtin .like))
    {source : String} {p : Pattern} (written : Pattern.ofValue (.str source) {} = .ok p)
    (field : String) :
    g.build [] (.dict [(.str field, .dict [(.str "like", .str source)])]) =
      pure (.fields 0 [(.str field, .mk [.pattern ⟨p, .str Code.wrongFormat⟩] .null)]) := by
  have made : g.makeWithin [] (g.deeper []) ⟨"like", .str source⟩ =
      pure (.pattern ⟨p, .str Code.wrongFormat⟩) := by
    have letters : PatternFlags.ofValue (.str "") = .ok {} := rfl
    rw [makeWithin_builtin like]
    simp only [Call.arguments, Builtin.make, Match.like, pure_bind, letters, written, lift_ok]
    rfl
  rw [build, buildWithin_dict]
  simp [parseWithin_eq, callWithin, ruleWithin_eq, made, completeWithin,
    Keyed.putAll, Keyed.put]

/-- A pattern that remembers a group from a later place to an earlier one in the text of a field
interrupts the rule that looks for it. -/
theorem Validator.errors_like_tangled {m : Match} {field text : String} (given : text ≠ "")
    (tangled : m.pattern.found text.toList = .error (.fault .internal)) (ledger : Ledger) :
    outcome ((Validator.fields 0 [(.str field, .mk [.pattern m] .null)]).errors
      (.dict [(.str field, .str text)])) ledger = .error (.fault .internal) := by
  have value : (Value.dict [(.str field, .str text)]).field (.str field) = .ok (.str text) := by
    simp [Value.field, Value.field?, Value.isHashable, Keyed.find?, Value.same]
  have report : (Rule.pattern m).apply (.str text) (.dict [(.str field, .str text)]) =
      throw (.fault .internal) := by
    rw [Rule.apply, Match.apply_tangled rfl rfl tangled]
    rfl
  simp [errors, check, Value.isRecord, reports, value, lift_ok, RuleSet.apply, firstReport,
    Value.isAbsent, given, report]

/-- A group inside rounds that give nothing back, the last of which leaves it out. -/
theorem Validator.errors_possessive_repeat :
    ∃ v, outcome (({} : Registry).build [] (.dict [(.str "f",
        .dict [(.str "like", .str "((x)|y|z)*+")])])) {} = .ok v ∧
      (∀ x ∈ v.pieces, x.IsPlain) ∧
      outcome (v.errors (.dict [(.str "f", .str "xyz")])) {} = .error (.fault .internal) := by
  have searched : (Pattern.ofValue (.str "((x)|y|z)*+") {}).map (·.found "xyz".toList) =
      .ok (.error (.fault .internal)) := by cbv
  cases written : Pattern.ofValue (.str "((x)|y|z)*+") {} with
  | error e =>
    rw [written] at searched
    cases searched
  | ok p =>
    rw [written] at searched
    have tangled : p.found "xyz".toList = .error (.fault .internal) := Except.ok.inj searched
    refine ⟨_, by rw [Registry.build_like rfl written]; rfl, ?_,
      errors_like_tangled (by decide) tangled {}⟩
    simp [pieces, fieldPieces, RuleSet.pieces, rulePieces, Rule.pieces, Piece.IsPlain]

end RecordCheck
