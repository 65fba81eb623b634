import RecordCheck.Proofs.Asking
import RecordCheck.Proofs.Grammar

/-!
# A slot for each entry of a list

A rule for lists reports a slot for each entry, empty where the entry passes. A validator takes a
lone report out of its list, so that the error of a list with one entry is the error of that entry.
If this is a list itself, its slots are those of the entry and not of the list.

## Main definitions

* `Rule.entryReport`: what a rule for lists reports about one entry.
* `Rule.Passes`: an entry about which nothing is reported.
* `Rule.Unwraps`: an entry whose own error is a list of several slots.
* `Rule.Slotted`: a list with a slot for each entry, empty where the entry passes.

## Main statements

* `Rule.apply_entries`, `Rule.exists_slots`: a rule for lists reports about one entry after the
  other, and puts what comes of them together.
* `Rule.slotted_iff`: when the error of a list has a slot for each entry.
* `Validator.errors_slots`: the error of a field with a rule for lists.
-/
set_option autoImplicit false

namespace RecordCheck

open Act

namespace Rule

/-- Whether a rule is one for lists. -/
def isList : Rule → Bool
  | .listOf .. | .objects .. => true
  | _ => false

/-- What a rule for lists reports about one entry. -/
def entryReport : Rule → Value → Act (Option Report)
  | .listOf _ _ entryField rules, entry =>
    Option.map Report.collapse <$> rules.apply entry (.dict [(.str entryField, entry)])
  | .objects _ _ validator, entry => slotOf (validator.check entry)
  | _, _ => return none

/-- The rules for the entries have nothing to report about an entry when its turn comes. -/
def Passes : Rule → Value → Ledger → Prop
  | .listOf _ _ entryField rules, entry, turn =>
    outcome (rules.apply entry (.dict [(.str entryField, entry)])) turn = .ok none
  | .objects _ _ validator, entry, turn => outcome (validator.check entry) turn = .ok []
  | _, _, _ => True

/-- The own error of an entry is a list with more than one slot. -/
def Unwraps (rule : Rule) (entry : Value) (turn : Ledger) : Prop :=
  ∃ report inner, outcome (rule.entryReport entry) turn = .ok (some report) ∧
    report.toValue = .list inner ∧ 1 < inner.length

/-- The ledger that an entry meets when those before it have been checked. -/
def turn (rule : Rule) (entries : List Value) (ledger : Ledger) (i : Nat) : Ledger :=
  after ((entries.take i).mapM rule.entryReport) ledger

/-- A list has a slot for each entry, and the slots of the entries that pass are empty. -/
def Slotted (rule : Rule) (entries slots : List Value) (ledger : Ledger) : Prop :=
  slots.length = entries.length ∧ ∀ i entry, entries[i]? = some entry →
    (slots[i]? = some .null ↔ rule.Passes entry (rule.turn entries ledger i))

variable {rule : Rule} (isList : rule.isList)
include isList

/-- A rule for lists reports about one entry after the other. -/
theorem apply_entries (v record : Value) :
    rule.apply v record = v.eachEntry rule.entryReport := by
  cases rule with
  | listOf => exact apply_listOf ..
  | objects => exact apply_objects ..
  | _ => cases isList

theorem apply_list (container : Container) (entries : List Value) (record : Value) :
    rule.apply (.items container entries) record =
      Report.ofSlots <$> entries.mapM rule.entryReport := by
  rw [apply_entries isList]
  rfl

/-- The slots of a report are what comes of one entry after the other. -/
theorem exists_slots {v record : Value} {ledger : Ledger} {entries : List Value}
    {found : Option Report} (walked : outcome v.entries ledger = .ok (some entries))
    (applied : outcome (rule.apply v record) ledger = .ok found) :
    ∃ slots, outcome (entries.mapM rule.entryReport) (after v.entries ledger) = .ok slots ∧
      Report.ofSlots slots = found := by
  rw [apply_entries isList, Value.eachEntry, outcome_bind, walked] at applied
  exact outcome_map_ok.1 applied

theorem passes_iff (entry : Value) (ledger : Ledger) :
    rule.Passes entry ledger ↔ outcome (rule.entryReport entry) ledger = .ok none := by
  cases rule with
  | listOf field serial entryField rules =>
    rw [Passes, entryReport, outcome_map]
    cases outcome (rules.apply entry (.dict [(.str entryField, entry)])) ledger with
    | error e => simp [Except.map]
    | ok found => cases found <;> simp [Except.map]
  | objects field entryField validator =>
    rw [Passes, entryReport, slotOf, outcome_tryCatch, outcome_map]
    cases checked : outcome (validator.check entry) ledger with
    | error e =>
      simp only [Except.map, reduceCtorEq, false_iff]
      split <;> simp
    | ok parts => cases parts <;> simp [Except.map, Report.ofFields]
  | _ => cases isList

theorem entryReport_reported {C : Value → Prop} (codes : AreCodes C)
    (coded : ∀ x ∈ rule.pieces, x.IsCoded C) (entry : Value) :
    Yields (rule.entryReport entry) fun slot => ∀ r ∈ slot, Reported C rule.nested r.toValue := by
  cases rule with
  | listOf field serial entryField rules =>
    refine .map ((RuleSet.apply_payload codes rules (fun x hx => coded x (.tail _ hx)) entry _).mono
      (fun found each r same => ?_) fun _ h => h)
    obtain ⟨own, given, rfl⟩ := Option.map_eq_some_iff.1 same
    exact (each own given).collapse codes
  | objects field entryField validator =>
    exact slotOf_reported codes
      (validator.check_checked codes (fun x hx => coded x (.tail _ hx)) entry)
  | _ => cases isList

end Rule

/-- A list stays as it is unless it has a single slot, with something other than a mapping in it. -/
theorem Report.collapse_kept {slots : List (Option Report)}
    (h : ¬ ∃ r, slots = [some r] ∧ r.isMapping = false) :
    (Report.slots slots).collapse = .slots slots := by
  rw [collapse.eq_def]
  split
  · next r same =>
    cases same
    exact if_pos (by simpa using h)
  · rfl

theorem areCodes_isStr : AreCodes fun code => code.isStr where
  builtin _ _ := rfl
  given code isStr := by
    rintro rfl
    cases isStr

namespace Rule

section Error

variable {rule : Rule} {container : Container} {entries : List Value} {slots : List Value}
  {record : Value} {ledger : Ledger} {found : Report}

/-- The entries that pass have empty slots in what a rule for lists reports. -/
theorem slotted_slotValues (isList : rule.isList)
    (coded : ∀ x ∈ rule.pieces, x.IsCoded fun code => code.isStr) {reps : List (Option Report)}
    (each : outcome (entries.mapM rule.entryReport) ledger = .ok reps) :
    rule.Slotted entries (Report.slotValues reps) ledger := by
  obtain ⟨length, turns⟩ := mapM_ok each
  rw [Report.slotValues_eq]
  refine ⟨by simpa using length, fun i entry member => ?_⟩
  obtain ⟨slot, at_i, reported⟩ := turns i entry member
  rw [passes_iff isList, turn, reported, List.getElem?_map, at_i]
  cases slot with
  | none => simp
  | some r =>
    have error := (entryReport_reported isList areCodes_isStr coded entry).of_ok reported r rfl
    simpa using error.ne_null areCodes_isStr

/-- The error of a lone entry has a slot for it when it has not got more than one. -/
theorem slotted_alone (isList : rule.isList)
    (coded : ∀ x ∈ rule.pieces, x.IsCoded fun code => code.isStr) {entry : Value} {r : Report}
    (own : outcome (rule.entryReport entry) ledger = .ok (some r))
    (error : r.toValue = .list slots) :
    rule.Slotted [entry] slots ledger ↔ ¬ 1 < slots.length := by
  have reported := (entryReport_reported isList areCodes_isStr coded entry).of_ok own r rfl
  rw [error] at reported
  cases reported with
  | code isStr => cases isStr
  | slots some _ single =>
    constructor
    · rintro ⟨length, -⟩
      simp [length]
    · intro few
      obtain ⟨filled, member, -⟩ := some
      have one : slots.length = 1 := by
        have := List.length_pos_of_mem member
        omega
      obtain ⟨slot, rfl⟩ := List.length_eq_one_iff.1 one
      have mapping : slot.isMapping := single slot rfl
      refine ⟨rfl, fun i e inside => ?_⟩
      obtain ⟨rfl, rfl⟩ : i = 0 ∧ entry = e := by
        simpa [List.getElem?_singleton] using inside
      have fails : ¬ rule.Passes entry ledger := by
        rw [passes_iff isList, own]
        simp
      refine iff_of_false (fun empty => ?_) fails
      obtain rfl : slot = .null := by simpa using empty
      cases mapping

/-- The error of a list has a slot for each entry unless it is that of an entry which is a list
itself. -/
theorem slotted_iff (isList : rule.isList)
    (coded : ∀ x ∈ rule.pieces, x.IsCoded fun code => code.isStr)
    (applied : outcome (rule.apply (.items container entries) record) ledger = .ok (some found))
    (error : found.collapse.toValue = .list slots) :
    rule.Slotted entries slots ledger ↔
      ¬ ∃ entry, entries = [entry] ∧ rule.Unwraps entry ledger := by
  rw [apply_list isList] at applied
  obtain ⟨reps, each, made⟩ := outcome_map_ok.1 applied
  obtain ⟨-, rfl⟩ : reps.any Option.isSome ∧ Report.slots reps = found := by
    simpa [Report.ofSlots] using made
  by_cases alone : ∃ r, reps = [some r] ∧ r.isMapping = false
  · -- The report of the entry is taken out of the list.
    obtain ⟨r, rfl, other⟩ := alone
    obtain ⟨entry, rfl⟩ := List.length_eq_one_iff.1 (mapM_ok each).1.symm
    obtain ⟨_, same, own⟩ := mapM_singleton_ok each
    obtain rfl := List.head_eq_of_cons_eq same
    rw [Report.collapse, if_neg (by simp [other])] at error
    rw [slotted_alone isList coded own error]
    refine not_congr ⟨fun several => ⟨entry, rfl, r, slots, own, error, several⟩, ?_⟩
    rintro ⟨_, only, report, inner, reported, shape, several⟩
    obtain rfl := List.head_eq_of_cons_eq only
    obtain rfl : r = report := by simpa [own] using reported
    obtain rfl : slots = inner := by simpa [error] using shape
    exact several
  · -- The list is reported as it is.
    rw [Report.collapse_kept alone, Report.toValue] at error
    cases error
    refine iff_of_true (slotted_slotValues isList coded each) ?_
    rintro ⟨entry, rfl, report, inner, reported, shape, -⟩
    obtain ⟨_, rfl, own⟩ := mapM_singleton_ok each
    obtain rfl : _ = some report := by simpa [own] using reported
    refine alone ⟨report, rfl, Bool.eq_false_iff.2 fun mapping => ?_⟩
    have mapped := Report.isMapping_toValue mapping
    rw [shape] at mapped
    cases mapped

end Error

end Rule

/-! ## Descriptions of one rule for lists -/

/-- The built-in rules for lists. -/
def Builtin.isList : Builtin → Bool
  | .listOf | .listOfObjects | .listOfDifferentObjects => true
  | _ => false

/-- A draft of a rule for lists. -/
def Draft.IsList (d : Draft) : Prop := d.kind = .list ∨ d.kind = .objects ∨ d.kind = .variants

theorem Builtin.make_list {b : Builtin} (isList : b.isList) (args : List Value) :
    Yields (b.make args) fun rule =>
      ∃ d : Draft, rule = .draft d ∧ d.IsList ∧ d.description ∈ args := by
  have mapped {rule : String} {v : Value} {f : Value → Draft} (inside : v ∈ args)
      (made : ∀ w, (f w).IsList ∧ (f w).description = w) :
      Yields (do return Rule.draft (f (← mappingFor rule v))) fun rule =>
        ∃ d : Draft, rule = .draft d ∧ d.IsList ∧ d.description ∈ args := by
    refine Ensures.bind (.lift (fun w => mappingFor_eq) fun _ _ => trivial) fun w same => .pure ?_
    exact ⟨f w, rfl, (made w).1, by rw [(made w).2, same]; exact inside⟩
  cases b with
  | listOf =>
    match args with
    | [description] => exact .pure ⟨_, rfl, .inl rfl, by simp⟩
    | [] | _ :: _ :: _ => exact .throw trivial
  | listOfObjects =>
    match args with
    | [description] => exact mapped (by simp) fun w => ⟨.inr (.inl rfl), rfl⟩
    | [] | _ :: _ :: _ => exact .throw trivial
  | listOfDifferentObjects =>
    match args with
    | [field, description] => exact mapped (by simp) fun w => ⟨.inr (.inr rfl), rfl⟩
    | [] | [_] | _ :: _ :: _ :: _ => exact .throw trivial
  | _ => cases isList

namespace Registry

variable {g : Registry} {d : Value} {call : Call} {b : Builtin}

theorem finishWithin_list {d : Draft} (isList : d.IsList) :
    Yields (finishWithin g [] (g.deeper []) d) fun rule => rule.isList := by
  obtain ⟨kind, description, field, entryField⟩ := d
  rw [finishWithin]
  rcases isList with rfl | rfl | rfl
  · exact (yields_any _).bind fun _ _ => .pure rfl
  · exact (yields_any _).bind fun _ _ => .pure rfl
  · dsimp only
    split
    · exact (yields_any _).bind fun _ _ => .pure rfl
    · exact .throw trivial

/-- The description of a rule for lists gives that rule alone. -/
theorem parseWithin_list (described : Description.calls d = [.ok call])
    (named : g.find? call.name = some (.builtin b)) (isList : b.isList) :
    Yields (parseWithin g [] (g.deeper []) d) fun s =>
      ∃ rule, s = .mk [rule] .null ∧ rule.isList := by
  have rule : Yields (ruleWithin g [] (g.deeper []) call) fun rule => rule.isList := by
    rw [ruleWithin_eq, makeWithin_builtin named]
    refine (b.make_list isList call.arguments).bind ?_
    rintro _ ⟨d, rfl, isList, inside⟩
    rw [completeWithin, if_pos (Call.weight_le_of_mem inside)]
    exact finishWithin_list isList
  rw [parseWithin_eq, described]
  refine (Ensures.mapM (S := fun _ rule => rule.isList) fun x alone => ?_).bind
    fun rules each => .pure ?_
  · rw [List.mem_singleton.1 alone]
    exact rule
  · obtain ⟨rule, _, isList, none, rfl⟩ := List.forall₂_cons_left_iff.1 each
    cases none
    exact ⟨rule, rfl, isList⟩

/-- A validator has one rule for a field that is described by a rule for lists. -/
theorem build_list {source : List (Value × Value)} {field : Value}
    (distinct : Keyed.IsDistinct source) (member : (field, d) ∈ source)
    (described : Description.calls d = [.ok call])
    (named : g.find? call.name = some (.builtin b)) (isList : b.isList) :
    Yields (g.build [] (.dict source)) fun v => ∃ front rule rest,
      v = .fields 0 (front ++ (field, .mk [rule] .null) :: rest) ∧ rule.isList ∧
        ∀ entry ∈ front ++ rest, entry.1 ≠ field := by
  have entries : Yields (buildWithin g [] (g.deeper []) (.dict source)) (List.Forall₂ (fun e f =>
      f.1 = e.1 ∧ (e.2 = d → ∃ rule, f.2 = .mk [rule] .null ∧ rule.isList)) source) := by
    rw [buildWithin_dict]
    refine .mapM fun e _ => ?_
    by_cases same : e.2 = d
    · rw [same]
      exact (parseWithin_list described named isList).bind fun s single =>
        .pure ⟨rfl, fun _ => single⟩
    · exact (yields_any _).bind fun s _ => .pure ⟨rfl, fun equal => absurd equal same⟩
  refine (entries.and (buildWithin_keys _)).bind fun entries ⟨each, keys⟩ => .pure ?_
  have unique : Keyed.IsDistinct entries := by
    rw [Keyed.IsDistinct, keys]
    exact distinct
  obtain ⟨⟨_, s⟩, inside, rfl, single⟩ := exists_partner each.flip member
  obtain ⟨rule, rfl, isList⟩ := single rfl
  obtain ⟨front, rest, rfl⟩ := List.append_of_mem inside
  rw [Keyed.putAll_nil unique]
  exact ⟨front, rule, rest, rfl, isList, unique.ne_of_append⟩

end Registry

namespace Validator

/-- The error of a field that is described by a rule for lists: where it is a list, it has a slot
for each entry, and the slots of the entries that pass are empty. The exception is a list with one
entry that has several errors of its own, which are reported in its place. -/
theorem errors_slots {g : Registry} {source errors : List (Value × Value)} {field d record : Value}
    {call : Call} {b : Builtin} {container : Container} {entries slots : List Value}
    {v : Validator} {before ledger : Ledger} (coded : g.IsCoded fun code => code.isStr)
    (distinct : Keyed.IsDistinct source) (member : (field, d) ∈ source)
    (described : Description.calls d = [.ok call])
    (named : g.find? call.name = some (.builtin b)) (isList : b.isList)
    (built : outcome (g.build [] (.dict source)) before = .ok v)
    (read : record.field field = .ok (.items container entries))
    (validated : outcome (v.errors record) ledger = .ok (.dict errors))
    (reported : (field, .list slots) ∈ errors) :
    ∃ front rule rest, v = .fields 0 (front ++ (field, .mk [rule] .null) :: rest) ∧ rule.isList ∧
      (rule.Slotted entries slots (after (reports front record) ledger) ↔
        ¬ ∃ entry, entries = [entry] ∧
          rule.Unwraps entry (after (reports front record) ledger)) := by
  have codes : ∀ x ∈ v.pieces, x.IsCoded fun code => code.isStr :=
    (Registry.build_upholds (coded.upholds areCodes_isStr) (by simp) trivial).of_ok built
  obtain ⟨front, rule, rest, rfl, isList, only⟩ :=
    (Registry.build_list distinct member described named isList).of_ok built
  refine ⟨front, rule, rest, rfl, isList, ?_⟩
  have own : ∀ x ∈ rule.pieces, x.IsCoded fun code => code.isStr := by
    refine fun x inside => codes x (.tail _ ?_)
    exact mem_fieldPieces.2 ⟨_, List.mem_append_right _ (.head _),
      RuleSet.mem_pieces.2 (.inr ⟨rule, .head _, inside⟩)⟩
  obtain ⟨parts, checked, made⟩ := outcome_bind_ok.1 validated
  have isRecord : record.isRecord := by
    by_contra other
    rw [check, if_neg other] at checked
    cases checked
  rw [check, if_pos isRecord] at checked
  have valued : Report.fieldValues parts = errors := by
    simpa [Report.toValue] using made
  rw [← valued, Report.fieldValues_eq] at reported
  obtain ⟨⟨_, r⟩, inside, same⟩ := List.mem_map.1 reported
  obtain ⟨rfl, error⟩ := Prod.mk.inj same
  obtain ⟨found, applied, rfl⟩ := reports_at only checked inside read
  rw [RuleSet.apply_null, firstReport_single rfl] at applied
  exact Rule.slotted_iff isList own applied error

end Validator

/-- The validator of records with a field for lists of lists of integers. -/
theorem Registry.build_lists :
    let d := Value.dict [(.str "list_of", .list [.dict [(.str "list_of", .list [.str "integer"])]])]
    outcome (({} : Registry).build [] (.dict [(.str "f", d)])) {} =
      .ok (.fields 0 [(.str "f", .mk [.listOf .null 0 "entry" (.mk [.listOf .null 0 "entry"
        (.mk [.comparison { operator := .integer }] .null)] .null)] .null)]) := by
  intro d
  let g : Registry := {}
  have integer : ruleWithin g [] (g.deeper []) ⟨"integer", .null⟩ =
      pure (.comparison { operator := .integer }) :=
    ruleWithin_finished (b := .integer) rfl rfl rfl
  have listOf (inner : Value) : ruleWithin g [] (g.deeper []) ⟨"list_of", .list [inner]⟩ = do
      return .listOf .null 0 "entry" (← parseWithin g [] (g.deeper []) inner) := by
    rw [ruleWithin_draft (b := .listOf) rfl rfl (List.mem_singleton_self _), finishWithin]
  have parsed : parseWithin g [] (g.deeper []) d = pure (.mk [.listOf .null 0 "entry"
      (.mk [.listOf .null 0 "entry" (.mk [.comparison { operator := .integer }] .null)] .null)]
      .null) := by
    simp [parseWithin_eq, callWithin, listOf, integer, d]
  simp only [build, buildWithin_dict, List.mapM_cons, List.mapM_nil]
  rw [parsed]
  rfl

namespace Validator

/-- Of two lists in a list, one has entries that fail. -/
theorem errors_slots_of_lists :
    let d := Value.dict [(.str "list_of", .list [.dict [(.str "list_of", .list [.str "integer"])]])]
    let rule := Rule.listOf .null 0 "entry" (.mk [.listOf .null 0 "entry"
      (.mk [.comparison { operator := .integer }] .null)] .null)
    let v := Validator.fields 0 [(.str "f", .mk [rule] .null)]
    let entries := [Value.list [.str "x", .str "y"], .list [.int 1]]
    let record := Value.dict [(.str "f", .list entries)]
    let slots := [Value.list [.str Code.notInteger, .str Code.notInteger], .null]
    outcome (({} : Registry).build [] (.dict [(.str "f", d)])) {} = .ok v ∧
      outcome (v.errors record) {} = .ok (.dict [(.str "f", .list slots)]) ∧
      rule.Slotted entries slots {} := by
  intro d rule v entries record slots
  have coded : ({} : Registry).IsCoded fun code => code.isStr :=
    (Registry.IsStandard.builtins "entry" true).isCoded fun _ _ _ _ isStr => isStr
  have distinct : Keyed.IsDistinct [(Value.str "f", d)] := List.pairwise_singleton _ _
  have built : outcome (({} : Registry).build [] (.dict [(.str "f", d)])) {} = .ok v :=
    Registry.build_lists
  have read : record.field (.str "f") = .ok (.list entries) := by cbv
  have validated : outcome (v.errors record) {} = .ok (.dict [(.str "f", .list slots)]) := by cbv
  obtain ⟨front, rule', _, same, -, slotted⟩ := errors_slots coded distinct
    (List.mem_singleton_self _) (Description.calls_single _ _) rfl rfl built read validated
    (List.mem_singleton_self _)
  refine ⟨built, validated, ?_⟩
  obtain ⟨rfl, own⟩ : front = [] ∧ rule' = rule := by
    cases front with
    | nil =>
      obtain ⟨own, -⟩ : rule' = rule ∧ _ := by simpa [v, eq_comm] using same
      exact ⟨rfl, own⟩
    | cons => simp [v] at same
  rw [← own]
  refine slotted.2 ?_
  rintro ⟨_, only, -⟩
  simp [entries] at only

/-- A list with one entry is reported with the two slots of this entry. -/
theorem errors_unwrapped :
    let d := Value.dict [(.str "list_of", .list [.dict [(.str "list_of", .list [.str "integer"])]])]
    let v := Validator.fields 0 [(.str "f", .mk [.listOf .null 0 "entry" (.mk [.listOf .null 0
      "entry" (.mk [.comparison { operator := .integer }] .null)] .null)] .null)]
    let entries := [Value.list [.str "x", .str "y"]]
    let record := Value.dict [(.str "f", .list entries)]
    let slots := [Value.str Code.notInteger, .str Code.notInteger]
    outcome (({} : Registry).build [] (.dict [(.str "f", d)])) {} = .ok v ∧
      outcome (v.errors record) {} = .ok (.dict [(.str "f", .list slots)]) ∧
      slots.length ≠ entries.length := by
  intro d v entries record slots
  exact ⟨Registry.build_lists, by cbv, by decide⟩

end Validator

end RecordCheck
