import RecordCheck.Proofs.Failing
import RecordCheck.Proofs.Slots

/-!
# Values that are no records

That a value is no record is told of the value that a validator is shown, and of nothing inside it.
A rule for lists of records catches this error around the whole validation of an entry, and still
catches nothing but what is told of the entry itself: asking first whether the entry is a record
would come to the same.

## Main statements

* `slotOf_check`: an entry that is a record has in its slot what comes of its own validation.
* `Validator.unvalidatable_outermost`: rules never tell that something is no record, validators tell
  it exactly of what they are shown, and the slots of lists tell it exactly of their entries.
-/
set_option autoImplicit false

namespace RecordCheck

open Act

/-! ## Entries of lists of records -/

/-- What an entry of a list of records has in its slot: a code when it is no record, and otherwise
what is reported about its fields. -/
def Validator.slot (validator : Validator) (entry : Value) : Act (Option Report) :=
  if entry.isRecord then Report.ofFields <$> validator.check entry
  else return some (.code (.str Code.formatError))

/-- No error of the rules for the fields of a record is caught. -/
theorem slotOf_check (validator : Validator) (entry : Value) :
    slotOf (validator.check entry) = validator.slot entry := by
  rw [Validator.slot]
  split
  · next isRecord =>
    have fields : FailsLike (Report.ofFields <$> validator.check entry) validator.pieces :=
      .map (validator.check_failsBy entry isRecord)
    refine fields.tryCatch_eq fun e failed => ?_
    split
    · exact absurd rfl failed.kind_ne_unvalidatable
    · rfl
  · next noRecord =>
    rw [validator.check_noRecord (by simpa using noRecord)]
    rfl

/-- A slot has a code exactly for an entry that is no record, and otherwise the errors of the entry
if there are any. -/
theorem Validator.slot_ok {validator : Validator} {entry : Value} {ledger : Ledger}
    {slot : Option Report} (made : outcome (validator.slot entry) ledger = .ok slot) :
    ((slot.map Report.toValue).getD .null = .str Code.formatError ↔ entry.isRecord = false) ∧
      (entry.isRecord → ∃ errors, outcome (validator.errors entry) ledger = .ok errors ∧
        (slot.map Report.toValue).getD .null = if errors.isTrue then errors else .null) := by
  rw [Validator.slot] at made
  cases isRecord : entry.isRecord with
  | false =>
    rw [isRecord] at made
    cases made
    simp [Report.toValue]
  | true =>
    rw [isRecord, if_pos rfl, outcome_map] at made
    cases checked : outcome (validator.check entry) ledger with
    | error e => rw [checked] at made; cases made
    | ok parts =>
      rw [checked] at made
      cases made
      have errors : outcome (validator.errors entry) ledger =
          .ok (.dict (Report.fieldValues parts)) := by
        rw [Validator.errors, outcome_bind, checked]
        simp [Report.toValue]
      rw [Report.ofFields]
      cases parts with
      | nil => simp [errors, Report.fieldValues, Value.isTrue, Value.size?]
      | cons part parts =>
        simp [errors, Report.toValue, Report.fieldValues, Value.isTrue, Value.size?]

/-- A list about which nothing is reported has empty slots only. -/
theorem Report.eq_null_of_ofSlots {slots : List (Option Report)} (none : ofSlots slots = none) :
    ∀ v ∈ slotValues slots, v = .null := by
  intro v member
  rw [slotValues_eq] at member
  obtain ⟨slot, inside, rfl⟩ := List.mem_map.1 member
  cases slot with
  | none => rfl
  | some r =>
    have filled : slots.any Option.isSome := List.any_eq_true.2 ⟨_, inside, rfl⟩
    simp [ofSlots, filled] at none

section Entries

variable {label entryField : Value} {validator : Validator} {entries : List Value} {ledger : Ledger}
  {slots : List (Option Report)}

/-- The slots of a list belong to its entries, each of which is checked when its turn comes. -/
theorem Rule.slots_ok (each : outcome (entries.mapM
      (Rule.objects label entryField validator).entryReport) ledger = .ok slots) :
    (Report.slotValues slots).length = entries.length ∧
      ∀ i entry, entries[i]? = some entry → ∃ v, (Report.slotValues slots)[i]? = some v ∧
        (v = .str Code.formatError ↔ entry.isRecord = false) ∧
        (entry.isRecord → ∃ errors, outcome (validator.errors entry)
            ((Rule.objects label entryField validator).turn entries ledger i) = .ok errors ∧
          v = if errors.isTrue then errors else .null) := by
  obtain ⟨length, turns⟩ := mapM_ok each
  rw [Report.slotValues_eq]
  refine ⟨by simpa using length, fun i entry member => ?_⟩
  obtain ⟨slot, at_i, reported⟩ := turns i entry member
  have own : outcome (validator.slot entry)
      ((Rule.objects label entryField validator).turn entries ledger i) = .ok slot := by
    rw [← slotOf_check]
    exact reported
  exact ⟨_, by rw [List.getElem?_map, at_i]; rfl, Validator.slot_ok own⟩

end Entries

/-! ## Rules, validators and lists -/

/-- A validator tells that something is no record exactly of what it is shown. -/
theorem Validator.errors_unvalidatable_iff (validator : Validator) (record : Value)
    (ledger : Ledger) : (∃ e, outcome (validator.errors record) ledger = .error e ∧
      e.kind = .rule .unvalidatable) ↔ record.isRecord = false := by
  constructor
  · rintro ⟨e, failed, unvalidatable⟩
    by_contra isRecord
    have reported : FailsLike (validator.errors record) validator.pieces :=
      .bind (validator.check_failsBy record (by simpa using isRecord)) fun _ _ => .pure trivial
    exact (reported.of_error failed).kind_ne_unvalidatable unvalidatable
  · intro noRecord
    refine ⟨.unvalidatable record.kind, ?_, rfl⟩
    rw [errors, validator.check_noRecord noRecord]
    rfl

namespace Validator

/-- Rules never tell that something is no record, whatever they consist of. A validator tells it
exactly when it is not shown a record. A rule for lists of records hands on all that comes of the
validation of an entry that is a record, so that its slots have the code for what is no record
exactly where the entry itself is none. -/
theorem unvalidatable_outermost :
    (∀ (rule : Rule) (v record : Value) (ledger : Ledger) (e : Error),
      outcome (rule.apply v record) ledger = .error e → e.kind ≠ .rule .unvalidatable) ∧
    (∀ (validator : Validator) (record : Value) (ledger : Ledger),
      (∃ e, outcome (validator.errors record) ledger = .error e ∧
        e.kind = .rule .unvalidatable) ↔ record.isRecord = false) ∧
    (∀ (validator : Validator) (entry : Value), entry.isRecord →
      slotOf (validator.check entry) = Report.ofFields <$> validator.check entry) ∧
    ∀ (label entryField : Value) (validator : Validator) (v record : Value) (ledger : Ledger)
      (entries : List Value) (found : Option Report),
      outcome v.entries ledger = .ok (some entries) →
      outcome ((Rule.objects label entryField validator).apply v record) ledger = .ok found →
        (found = none → ∀ entry ∈ entries, entry.isRecord) ∧
        ∀ report ∈ found, ∃ slots, report.toValue = .list slots ∧
          slots.length = entries.length ∧ ∀ i entry, entries[i]? = some entry →
            (slots[i]? = some (.str Code.formatError) ↔ entry.isRecord = false) ∧
            (entry.isRecord → ∃ errors,
              outcome (validator.errors entry) ((Rule.objects label entryField validator).turn
                entries (after v.entries ledger) i) = .ok errors ∧
              slots[i]? = some (if errors.isTrue then errors else .null)) := by
  refine ⟨fun rule v record ledger e failed => ?_, errors_unvalidatable_iff,
    fun validator entry isRecord => ?_, ?_⟩
  · exact ((rule.apply_failsBy v record).of_error failed).kind_ne_unvalidatable
  · rw [slotOf_check, slot, if_pos isRecord]
  · intro label entryField validator v record ledger entries found walked applied
    obtain ⟨slots, each, rfl⟩ := Rule.exists_slots rfl walked applied
    obtain ⟨length, each⟩ := Rule.slots_ok each
    constructor
    · intro none entry member
      obtain ⟨i, inside⟩ := List.getElem?_of_mem member
      obtain ⟨w, at_i, code, -⟩ := each i entry inside
      obtain rfl : w = .null := Report.eq_null_of_ofSlots none w (List.mem_of_getElem? at_i)
      simpa using mt code.2 Value.noConfusion
    · intro report reported
      obtain ⟨-, rfl⟩ : slots.any Option.isSome ∧ Report.slots slots = report := by
        simpa [Report.ofSlots] using reported
      refine ⟨_, by rw [Report.toValue], length, fun i entry member => ?_⟩
      obtain ⟨w, at_i, code, errors⟩ := each i entry member
      rw [at_i]
      simpa using ⟨code, errors⟩

/-- A list with an entry that is no record, another that lacks a field, and a third in which there
is no case for a record further inside. -/
theorem unvalidatable_outermost_of_lists :
    let validator := Validator.fields 0 [(.str "name", .mk [.blank .required] .null),
      (.str "parts", .mk [.objects (.str "kind") .null (.switch 0 (.str "kind") [])] .null)]
    let rule := Rule.objects .null .null validator
    let lacking := Value.dict []
    let unmatched := Value.dict [(.str "name", .str "a"),
      (.str "parts", .list [.dict [(.str "kind", .str "b")]])]
    let entries := [.str "no record", lacking]
    let report := Report.slots [some (.code (.str Code.formatError)),
      some (.fields [(.str "name", .code (.str Code.required))])]
    (outcome (rule.apply (.list [unmatched]) .null) {} = .error (.noCase (.str "kind") (.str "b")) ∧
      (Error.noCase (.str "kind") (.str "b")).kind ≠ .rule .unvalidatable) ∧
    (unmatched.isRecord ∧
      slotOf (validator.check unmatched) = Report.ofFields <$> validator.check unmatched) ∧
    outcome (Value.list entries).entries {} = .ok (some entries) ∧
    outcome (rule.apply (.list entries) .null) {} = .ok (some report) ∧
    ∃ slots, report.toValue = .list slots ∧
      (slots[0]? = some (.str Code.formatError) ↔ (Value.str "no record").isRecord = false) ∧
      (slots[1]? = some (.str Code.formatError) ↔ lacking.isRecord = false) := by
  intro validator rule lacking unmatched entries report
  obtain ⟨rules, -, caught, lists⟩ := unvalidatable_outermost
  have failed : outcome (rule.apply (.list [unmatched]) .null) {} =
      .error (.noCase (.str "kind") (.str "b")) := by cbv
  have walked : outcome (Value.list entries).entries {} = .ok (some entries) := rfl
  have applied : outcome (rule.apply (.list entries) .null) {} = .ok (some report) := by cbv
  obtain ⟨-, reported⟩ := lists _ _ _ _ _ _ _ _ walked applied
  obtain ⟨slots, value, -, each⟩ := reported report rfl
  exact ⟨⟨failed, rules _ _ _ _ _ failed⟩, ⟨rfl, caught validator unmatched rfl⟩, walked, applied,
    slots, value, (each 0 _ rfl).1, (each 1 _ rfl).1⟩

end Validator

end RecordCheck
