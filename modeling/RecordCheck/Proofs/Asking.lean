import RecordCheck.Proofs.Outcome
import RecordCheck.Proofs.Reaches
import RecordCheck.Validation

/-!
# The order in which rules are asked

A list of rules asks the first one and those behind it only when this has nothing to report. The
fields of a validator are gone through one after the other, whatever is reported about them, and so
are the entries of a list.

## Main definitions

* `Value.eachEntry`: what is reported about a value that is gone through entry by entry.

## Main statements

* `firstReport_append`, `firstReport_single`: rules in a row.
* `RuleSet.apply_null`: a set without an override.
* `Rule.apply_listOf`, `Rule.apply_objects`: rules for lists go through the entries.
* `Value.eachEntry_ensures`: what is ensured for each entry is ensured for the whole.
* `reports_append`, `reports_keys`: fields in a row, and the order of what is reported.
* `reports_at`: the report about one of the fields.
-/
set_option autoImplicit false

namespace RecordCheck

open Act

/-! ## Rules -/

/-- The rules at the end of a list are asked when those before have nothing to report. -/
theorem firstReport_append (rs ss : List Rule) (v record : Value) :
    firstReport (rs ++ ss) v record = (do
      match ← firstReport rs v record with
      | some report => return some report
      | none => firstReport ss v record) := by
  induction rs with
  | nil => simp [firstReport]
  | cons r rs ih =>
    rw [List.cons_append, firstReport, firstReport]
    split
    · exact ih
    · rw [bind_assoc]
      refine bind_congr fun report => ?_
      cases report with
      | none => exact ih
      | some report => simp

/-- A rule that sees a value is alone in what is reported about it. -/
theorem firstReport_single {rule : Rule} {v : Value}
    (asked : (v.isAbsent && !rule.seesAbsent) = false) (record : Value) :
    firstReport [rule] v record = rule.apply v record := by
  rw [firstReport, if_neg (by simp [asked])]
  conv_rhs => rw [← bind_pure (rule.apply v record)]
  refine bind_congr fun found => ?_
  cases found <;> rfl

/-- A set without an override reports what its rules report. -/
theorem RuleSet.apply_null (rules : List Rule) (v record : Value) :
    (RuleSet.mk rules .null).apply v record = firstReport rules v record := by
  rw [RuleSet.apply]
  have keeps (found : Option Report) : found.map (overridden .null) = found := by
    cases found <;> rfl
  simp [keeps]

/-! ## Entries -/

/-- The entries that a value is gone through by are among those it was made with. -/
theorem Value.entries_listed (v : Value) :
    Ensures v.entries (fun found => ∀ entries ∈ found, entries ⊆ v.listed) fun _ => False := by
  unfold entries
  cases v with
  | items container members =>
    refine .pure fun entries h => ?_
    cases h
    exact List.Subset.refl _
  | stream serial members =>
    refine .map fun ledger => ?_
    change ∀ entries, some (members.drop _) = some entries → entries ⊆ members
    intro entries h
    cases h
    exact List.drop_subset _ _
  | _ => exact .pure (by simp)

/-- What is reported about a value that is gone through entry by entry. -/
def Value.eachEntry (v : Value) (ask : Value → Act (Option Report)) : Act (Option Report) := do
  match ← v.entries with
  | none => return reportOf (some Code.formatError)
  | some entries => Report.ofSlots <$> entries.mapM ask

/-- A set of rules for entries sees each of them in a record of its own. -/
theorem Rule.apply_listOf (field : Value) (serial : Nat) (entryField : String) (rules : RuleSet)
    (v record : Value) :
    (Rule.listOf field serial entryField rules).apply v record = v.eachEntry fun entry =>
      Option.map Report.collapse <$> rules.apply entry (.dict [(.str entryField, entry)]) := by
  rw [Rule.apply, Value.eachEntry]
  refine bind_congr fun found => ?_
  cases found <;> rfl

/-- A validator for entries fills a slot for each of them. -/
theorem Rule.apply_objects (field entryField : Value) (validator : Validator) (v record : Value) :
    (Rule.objects field entryField validator).apply v record =
      v.eachEntry fun entry => slotOf (validator.check entry) := by
  rw [Rule.apply, Value.eachEntry]
  refine bind_congr fun found => ?_
  cases found <;> rfl

/-- What is ensured for each entry of a list and holds of other values is ensured for the whole. -/
theorem Value.eachEntry_ensures {v : Value} {ask : Value → Act (Option Report)}
    {S : Value → Option Report → Prop} {R : Option Report → Prop} {E : Error → Prop}
    (noList : R (reportOf (some Code.formatError)))
    (each : ∀ entry ∈ v.listed, Ensures (ask entry) (S entry) E)
    (together : ∀ entries slots, List.Forall₂ S entries slots → R (Report.ofSlots slots)) :
    Ensures (v.eachEntry ask) R E := by
  refine Ensures.bind (v.entries_listed.mono (fun _ h => h) fun _ h => h.elim) fun found listed => ?_
  cases found with
  | none => exact .pure noList
  | some entries =>
    refine .map ((Ensures.mapM fun entry member => ?_).mono (together entries) fun _ h => h)
    exact each entry (listed entries rfl member)

/-! ## Fields -/

/-- The fields of a validator are gone through one after the other. -/
theorem reports_append (es fs : List (Value × RuleSet)) (record : Value) :
    reports (es ++ fs) record = (do
      let first ← reports es record
      let rest ← reports fs record
      return first ++ rest) := by
  induction es with
  | nil => simp [reports]
  | cons e es ih =>
    obtain ⟨field, rules⟩ := e
    simp only [List.cons_append, reports, ih, bind_assoc, pure_bind]
    refine bind_congr fun v => bind_congr fun report => bind_congr fun first =>
      bind_congr fun rest => ?_
    cases report <;> rfl

/-- What is reported stands in the order of the fields. -/
theorem reports_keys (entries : List (Value × RuleSet)) (record : Value) :
    Yields (reports entries record) fun parts =>
      (parts.map (·.1)).Sublist (entries.map (·.1)) := by
  induction entries with
  | nil => exact .pure .slnil
  | cons entry entries ih =>
    obtain ⟨field, rules⟩ := entry
    rw [reports]
    refine (yields_any _).bind fun v _ => (yields_any _).bind fun report _ =>
      ih.bind fun rest ordered => .pure ?_
    cases report with
    | none => exact ordered.cons field
    | some r => exact ordered.cons_cons field

/-- What is reported is about fields of the validator. -/
theorem reports_fields (entries : List (Value × RuleSet)) (record : Value) :
    Yields (reports entries record) fun parts =>
      ∀ part ∈ parts, ∃ rules, (part.1, rules) ∈ entries := by
  refine (reports_keys entries record).mono (fun parts ordered part member => ?_) fun _ h => h
  obtain ⟨⟨_, rules⟩, known, rfl⟩ := List.mem_map.1 (ordered.subset (List.mem_map_of_mem member))
  exact ⟨rules, known⟩

/-- A report about a field comes from the rules for it, which are asked after those before. -/
theorem reports_at {front rest : List (Value × RuleSet)} {field record v : Value} {rules : RuleSet}
    {ledger : Ledger} {parts : List (Value × Report)} {r : Report}
    (only : ∀ entry ∈ front ++ rest, entry.1 ≠ field)
    (reported : outcome (reports (front ++ (field, rules) :: rest) record) ledger = .ok parts)
    (member : (field, r) ∈ parts) (read : record.field field = .ok v) :
    ∃ found, outcome (rules.apply v record) (after (reports front record) ledger) =
      .ok (some found) ∧ found.collapse = r := by
  obtain ⟨before, behind⟩ := List.forall_mem_append.1 only
  rw [reports_append, reports, read, lift_ok, pure_bind] at reported
  obtain ⟨first, firsts, reported⟩ := outcome_bind_ok.1 reported
  obtain ⟨later, laters, made⟩ := outcome_bind_ok.1 reported
  cases made
  obtain ⟨found, applied, laters⟩ := outcome_bind_ok.1 laters
  obtain ⟨others, more, made⟩ := outcome_bind_ok.1 laters
  have absent {entries : List (Value × RuleSet)} {parts : List (Value × Report)} {l : Ledger}
      (new : ∀ entry ∈ entries, entry.1 ≠ field)
      (reported : outcome (reports entries record) l = .ok parts) : (field, r) ∉ parts := by
    intro inside
    obtain ⟨own, known⟩ := (reports_fields entries record).of_ok reported _ inside
    exact new _ known rfl
  have inside := (List.mem_append.1 member).resolve_left (absent before firsts)
  cases found with
  | none =>
    cases made
    exact absurd inside (absent behind more)
  | some found =>
    cases made
    have same := (List.mem_cons.1 inside).resolve_right (absent behind more)
    exact ⟨found, applied, (Prod.mk.inj same).2.symm⟩

end RecordCheck
