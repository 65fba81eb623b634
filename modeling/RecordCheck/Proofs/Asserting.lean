import RecordCheck.Proofs.Evaluation
import RecordCheck.Proofs.ReportText
import RecordCheck.Proofs.Switching

/-!
# Asserting that a record is valid

Whether a record is valid can be asked in two ways: for its errors, or for a failure if there are
any. The failure has the errors in its message as text, so it needs a text of every report that a
validator can give. Reports of validators that were built from data with names have one, and so both
ways agree about every value.

## Main definitions

* `Registry.HasDeclared`: the fields that are declared one after the other.
* `Registry.HasBuilt`: the validators and switches that are built from data with names.

## Main statements

* `Registry.HasBuilt.forall_pieces`: what holds of all that is read holds inside such validators.
* `Validator.outcome_assertValid`: asserting reports what has a text, and fails like asking.
* `Validator.assertValid_agrees`: both ways of asking agree.
-/
set_option autoImplicit false

namespace RecordCheck

open Act

/-! ## Validators built from data with names -/

namespace Registry

/-- Fields that are declared one after the other, with rules that are read from data with names. A
field that is declared again has its last rules. -/
inductive HasDeclared (g : Registry) : List (Value × RuleSet) → Prop
  | nil : HasDeclared g []
  | field {declared field d before rules} : HasDeclared g declared → field.IsText → d.HasNames →
    outcome (g.parse d) before = .ok rules → HasDeclared g (Keyed.put field rules declared)

/-- A validator or a switch that is built from data with names. -/
inductive HasBuilt (g : Registry) (v : Validator) : Prop
  | validator {declared ruleset before} : g.HasDeclared declared → ruleset.HasNames →
    outcome (g.build declared ruleset) before = .ok v → HasBuilt g v
  | switch {declared field table before} : g.HasDeclared declared →
    (∀ case ∈ table, case.2.HasNames) →
    outcome (g.switch declared field (.dict table)) before = .ok v → HasBuilt g v

variable {g : Registry} {D : Value → Prop} {q : Piece → Prop} {declared : List (Value × RuleSet)}
  {v : Validator}

theorem keyOf_of_isText (data : ∀ d, d.HasNames → D d) {field : Value} (isText : field.IsText) :
    Value.KeyOf D field :=
  ⟨[(field, .null)], data _ (Value.hasNames_dict_iff.2 ⟨Keyed.isDistinct_single _,
    List.forall_mem_singleton.2 ⟨isText, trivial⟩⟩), _, List.mem_singleton_self _, rfl⟩

/-- One field after the other is placed. -/
theorem HasDeclared.placed (data : ∀ d, d.HasNames → D d) (upholds : g.Upholds D q)
    (made : g.HasDeclared declared) : ArePlaced D q declared := by
  induction made with
  | nil => exact arePlaced_nil
  | @field declared field d before rules _ isText named read ih =>
    refine ⟨fun entry member => ⟨?_, ?_⟩, fun names =>
      Keyed.isDistinct_put (ih.distinct names) isText.isStr⟩
    · have key := List.mem_map_of_mem (f := Prod.fst) member
      rw [Keyed.keys_put] at key
      rcases List.mem_append.1 key with old | new
      · obtain ⟨source, inside, same⟩ := List.mem_map.1 old
        exact same ▸ (ih.placed source inside).1
      · obtain rfl : entry.1 = field := by
          split at new
          · cases new
          · exact List.mem_singleton.1 new
        exact keyOf_of_isText data isText
    · rcases Keyed.mem_put member with old | new
      · exact (ih.placed entry old).2
      · exact new ▸ (parse_upholds upholds (data d named)).of_ok read

/-- What holds of everything that a registry reads holds inside all validators and switches that it
builds from data with names. -/
theorem HasBuilt.forall_pieces (data : ∀ d, d.HasNames → D d) (upholds : g.Upholds D q)
    (made : g.HasBuilt v) : ∀ x ∈ v.pieces, q x := by
  cases made with
  | validator declared named built =>
    exact (build_upholds upholds (declared.placed data upholds) (data _ named)).of_ok built
  | @switch declared field table before fields named built =>
    rw [switch_eq] at built
    obtain ⟨validators, each, rfl⟩ := outcome_map_ok.1 built
    have all : ∀ w ∈ validators, w.isFlat ∧ ∀ x ∈ w.pieces, q x := by
      intro w member
      obtain ⟨i, at_i⟩ := List.getElem?_of_mem member
      have inside : i < table.length := by
        rw [← (mapM_ok each).1]
        exact (List.getElem?_eq_some_iff.1 at_i).1
      obtain ⟨w', found, own⟩ := (mapM_ok each).2 i table[i] (List.getElem?_eq_getElem inside)
      obtain rfl : w = w' := Option.some.inj (at_i.symm.trans found)
      refine ⟨?_, (build_upholds upholds (fields.placed data upholds)
        (data _ (named _ (List.getElem_mem inside)))).of_ok own⟩
      obtain ⟨entries, -, made⟩ := outcome_bind_ok.1 own
      cases made
      rfl
    have case_mem {case : Value × Validator}
        (member : case ∈ Keyed.refilled table validators) : case.2 ∈ validators := by
      rw [Keyed.refilled, List.mem_iff_getElem?] at member
      obtain ⟨i, at_i⟩ := member
      obtain ⟨entry, w, -, found, rfl⟩ := List.getElem?_zipWith_eq_some.1 at_i
      exact List.mem_of_getElem? found
    intro x hx
    rcases List.mem_cons.1 hx with rfl | hx
    · exact upholds.switch _ _ _ fun case member => (all _ (case_mem member)).1
    · obtain ⟨case, member, hx⟩ := mem_casePieces.1 hx
      exact (all _ (case_mem member)).2 x hx

end Registry

/-! ## Failing -/

namespace Validator

theorem errors_kind_ne_invalid {v : Validator} {x : Value} {ledger : Ledger} {e : Error}
    (failed : outcome (v.errors x) ledger = .error e) : e.kind ≠ .rule .invalid := by
  by_cases isRecord : x.isRecord
  · have reported : FailsLike (v.errors x) v.pieces :=
      .bind (v.check_failsBy x isRecord) fun _ _ => .pure trivial
    exact (reported.of_error failed).kind_ne_invalid
  · rw [Validator.errors, v.check_noRecord (by simpa using isRecord)] at failed
    cases failed
    simp [Error.kind]

variable {g : Registry} {v : Validator} {x : Value}

/-- Errors are asked for with the same result whatever has been taken from streams. -/
theorem errors_still (sourceless : ∀ p ∈ v.pieces, p.source? = none) (steady : x.isSteady) :
    IsStill (v.errors x) := by
  refine .bind (v.check_within (fun p hp serial takes => ?_) x
    (Value.streamsIn_of_isSteady steady _)) fun _ => .pure _
  rw [sourceless p hp] at takes
  cases takes

/-- Where every report has a text, asserting fails with what is reported, and otherwise like asking
for the errors. -/
theorem outcome_assertValid {l m : Ledger} (still : IsStill (v.errors x))
    (printed : Yields (v.errors x) fun errors => ∃ text, Json.print errors = .ok text) :
    outcome (v.assertValid x) l = match outcome (v.errors x) m with
      | .ok errors => if errors.isTrue then .error (.invalid errors) else .ok ()
      | .error e => .error e := by
  rw [assertValid, outcome_bind, still.outcome_eq l m]
  cases reported : outcome (v.errors x) m with
  | error e => rfl
  | ok errors =>
    obtain ⟨text, shown⟩ := printed.of_ok reported
    have failure : Error.ofReport errors = .invalid errors := by
      rw [Error.ofReport, Error.jsonOf, shown]
      rfl
    dsimp only
    split
    · rw [failure]
      rfl
    · rfl

/-- Of a validator or a switch that was built from data with names, in a registry with such data and
with texts for codes, both ways of asking agree about every value without streams. Asserting
succeeds when there are no errors. It fails as invalid exactly when there are some, with these
errors, and with their text in its message. Whatever else asking for errors fails with, asserting
fails with too. -/
theorem assertValid_agrees (legible : g.IsLegible) (sourceless : g.IsSourceless)
    (built : g.HasBuilt v) (steady : x.isSteady) (l m : Ledger) :
    (outcome (v.assertValid x) l = .ok () ↔
      ∃ errors, outcome (v.errors x) m = .ok errors ∧ errors.isTrue = false) ∧
    ((∃ e, outcome (v.assertValid x) l = .error e ∧ e.kind = .rule .invalid) ↔
      ∃ errors, outcome (v.errors x) m = .ok errors ∧ errors.isTrue) ∧
    (∀ errors, outcome (v.errors x) m = .ok errors →
      ∃ text, Json.print errors = .ok text ∧
        (errors.isTrue → outcome (v.assertValid x) l = .error (.invalid errors) ∧
          (Error.invalid errors).message? = some ("Validation failed: " ++ text))) ∧
    ∀ e, outcome (v.errors x) m = .error e ↔
      outcome (v.assertValid x) l = .error e ∧ e.kind ≠ .rule .invalid := by
  have still : IsStill (v.errors x) := errors_still
    (built.forall_pieces (fun _ _ => trivial) sourceless.upholds) steady
  have printed : Yields (v.errors x) fun errors => ∃ text, Json.print errors = .ok text := by
    refine (errors_legible v ?_ ?_ x).mono (fun errors own => ?_) fun _ h => h
    · exact built.forall_pieces (fun _ _ => trivial) (legible.isCoded.upholds areCodes_isText)
    · exact built.forall_pieces (fun _ named => named) legible.upholds_hasNames
    · obtain ⟨text, shown, -⟩ := Json.print_legible own
      exact ⟨text, shown⟩
  rw [outcome_assertValid (l := l) (m := m) still printed]
  cases reported : outcome (v.errors x) m with
  | error e =>
    have other := errors_kind_ne_invalid reported
    simp [other]
  | ok errors =>
    obtain ⟨text, shown⟩ := printed.of_ok reported
    have message : (Error.invalid errors).message? = some ("Validation failed: " ++ text) := by
      rw [Error.message?, Error.jsonOf, shown]
      rfl
    cases failed : errors.isTrue <;> simp [failed, shown, message, Error.kind]

/-- A switch with a declared field and a field of its own, shown a record that fails, one that
passes, and one of which it has no case. -/
theorem assertValid_agrees_switch :
    let g : Registry := {}
    let integer := RuleSet.mk [.comparison { operator := .integer }] .null
    let required := RuleSet.mk [.blank .required] .null
    let table := [(Value.str "a", Value.dict [(.str "n", .str "required")])]
    let v := Validator.switch 0 (.str "kind")
      [(.str "a", .fields 0 [(.str "m", integer), (.str "n", required)])]
    let failing := Value.dict [(.str "kind", .str "a"), (.str "m", .str "x")]
    let passing := Value.dict [(.str "kind", .str "a"), (.str "n", .int 0)]
    let stranger := Value.dict [(.str "kind", .str "b")]
    let errors := Value.dict [(.str "m", .str Code.notInteger), (.str "n", .str Code.required)]
    let text := "\x7b\"m\": \"NOT_INTEGER\", \"n\": \"REQUIRED\"\x7d"
    (g.IsLegible ∧ g.IsSourceless ∧ g.HasBuilt v ∧
      outcome (g.switch [(.str "m", integer)] (.str "kind") (.dict table)) {} = .ok v) ∧
    (failing.isSteady ∧ outcome (v.errors failing) {} = .ok errors ∧ errors.isTrue ∧
      outcome (v.assertValid failing) {} = .error (.invalid errors) ∧
      (Error.invalid errors).message? = some ("Validation failed: " ++ text)) ∧
    (passing.isSteady ∧ outcome (v.assertValid passing) {} = .ok ()) ∧
    (stranger.isSteady ∧ outcome (v.assertValid stranger) {} =
      .error (.noCase (.str "kind") (.str "b"))) := by
  intro g integer required table v failing passing stranger errors text
  have standard {name : String} {definition : Definition} (found : g.find? name = some definition) :
      definition.IsStandard fun _ => False :=
    (Registry.IsStandard.builtins "entry" true).find? found
  have legible : g.IsLegible := ⟨fun _ _ _ found => (standard found).1.elim, fun _ _ found =>
    (standard found).elim⟩
  have sourceless : g.IsSourceless := fun _ _ found => (standard found).elim
  have parsed : g.parse (.str "integer") = pure integer :=
    Registry.parseWithin_name (b := .integer) rfl rfl rfl
  have inner : Registry.parseWithin g [] (g.deeper []) (.str "required") = pure required :=
    Registry.parseWithin_name (b := .required) rfl rfl rfl
  have read : outcome (g.parse (.str "integer")) {} = .ok integer := by
    rw [parsed]
    rfl
  have declared : g.HasDeclared [(.str "m", integer)] :=
    .field (d := .str "integer") .nil trivial trivial read
  have switched : outcome (g.switch [(.str "m", integer)] (.str "kind") (.dict table)) {} =
      .ok v := by
    have fields : Keyed.putAll [(.str "m", integer)] [(.str "n", required)] =
        [(.str "m", integer), (.str "n", required)] := by cbv
    rw [Registry.switch_eq]
    simp [table, Registry.build, Registry.buildWithin_dict, inner, fields, Keyed.refilled, v]
  have named : ∀ case ∈ table, case.2.HasNames := List.forall_mem_singleton.2
    (Value.hasNames_dict_iff.2 ⟨Keyed.isDistinct_single _, by simp [Value.IsText, Value.HasNames]⟩)
  have built : g.HasBuilt v := .switch declared named switched
  have found : outcome (v.errors failing) {} = .ok errors := by cbv
  have shown : Json.print errors = .ok text := by cbv
  have none : outcome (v.errors passing) {} = .ok (.dict []) := by cbv
  have unknown : outcome (v.errors stranger) {} = .error (.noCase (.str "kind") (.str "b")) := by
    cbv
  obtain ⟨-, -, failed, -⟩ := assertValid_agrees (x := failing) legible sourceless built rfl {} {}
  obtain ⟨passed, -, -, -⟩ := assertValid_agrees (x := passing) legible sourceless built rfl {} {}
  obtain ⟨-, -, -, other⟩ := assertValid_agrees (x := stranger) legible sourceless built rfl {} {}
  obtain ⟨t, printed, asserted⟩ := failed errors found
  obtain rfl : text = t := Except.ok.inj (shown.symm.trans printed)
  obtain ⟨invalid, message⟩ := asserted rfl
  exact ⟨⟨legible, sourceless, built, switched⟩, ⟨rfl, found, rfl, invalid, message⟩,
    ⟨rfl, passed.2 ⟨_, none, rfl⟩⟩, rfl, ((other _).1 unknown).1⟩

end Validator

end RecordCheck
