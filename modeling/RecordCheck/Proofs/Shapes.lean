import RecordCheck.Proofs.Containers
import RecordCheck.Proofs.Entries
import RecordCheck.Proofs.Unvalidatable

/-!
# Lists, records and objects

Three tests tell values apart by their shape: rules for lists take a value for a list, validators
take it for a record, and a built-in rule takes it for an object of any kind. They do not draw the
same lines. Binary data is an object and no record. A stream is a list of what it has left, and it
is a record, which has none of the fields.

## Main definitions

* `Value.isBinary`: binary data.
* `Value.IsAnyObject`: what the built-in rule for objects of any kind passes.

## Main statements

* `Value.isAnyObject_noRecord_iff`: objects that are no records are binary data.
* `Value.isCollection_isRecord_iff`: lists that are records are streams.
-/
set_option autoImplicit false

namespace RecordCheck

open Act

/-! ## Validators and slots -/

/-- The code for what is no record stands in the slots of such entries only. -/
theorem Validator.slot_eq_code_iff {validator : Validator} {entry : Value} {ledger : Ledger}
    {slot : Option Report} (made : outcome (validator.slot entry) ledger = .ok slot) :
    slot = some (.code (.str Code.formatError)) ↔ entry.isRecord = false := by
  rw [Validator.slot] at made
  cases isRecord : entry.isRecord with
  | false =>
    rw [isRecord] at made
    cases made
    simp
  | true =>
    rw [isRecord, if_pos rfl] at made
    obtain ⟨parts, -, rfl⟩ := outcome_map_ok.1 made
    cases parts <;> simp [Report.ofFields]

namespace Rule

variable {rule : Rule} {v record : Value} {ledger : Ledger} {entries : List Value}
  {found : Option Report}

/-- A rule for lists has a code for what is no list. -/
theorem apply_noCollection (isList : rule.isList) (noList : v.isCollection = false)
    (record : Value) (ledger : Ledger) :
    outcome (rule.apply v record) ledger = .ok (reportOf (some Code.formatError)) := by
  rw [apply_entries isList, Value.eachEntry, Value.entries, noList]
  rfl

/-- The slots of a report are what comes of one entry after the other. -/
theorem mapM_entryReport_ok (isList : rule.isList)
    (walked : outcome v.entries ledger = .ok (some entries))
    (applied : outcome (rule.apply v record) ledger = .ok found) :
    outcome (entries.mapM rule.entryReport) (after v.entries ledger) =
      .ok (Report.slotsFor entries.length found) := by
  obtain ⟨slots, made, rfl⟩ := exists_slots isList walked applied
  rw [made, ← (mapM_ok made).1, Report.slotsFor_ofSlots]

/-- In a list of records, the entries that are no records have a code in their slots. -/
theorem objects_slot_iff {label entryField : Value} {validator : Validator}
    (walked : outcome v.entries ledger = .ok (some entries))
    (applied : outcome ((Rule.objects label entryField validator).apply v record) ledger =
      .ok found) {i : Nat} {entry : Value} (at_i : entries[i]? = some entry) :
    (Report.slotsFor entries.length found)[i]? = some (some (.code (.str Code.formatError))) ↔
      entry.isRecord = false := by
  obtain ⟨slot, inside, made⟩ := (mapM_ok (mapM_entryReport_ok rfl walked applied)).2 i entry at_i
  rw [entryReport, slotOf_check] at made
  rw [inside, Option.some.injEq]
  exact Validator.slot_eq_code_iff made

end Rule

/-! ## Objects that are no records -/

namespace Value

/-- Binary data. -/
def isBinary : Value → Bool
  | .bytes _ | .bytearray _ => true
  | _ => false

/-- The built-in rule for objects of any kind has nothing to report about a value. -/
def IsAnyObject (v : Value) : Prop :=
  ∀ record ledger,
    outcome (Builtin.anyObject.make [] >>= fun rule => rule.apply v record) ledger = .ok none

theorem isAnyObject_iff {v : Value} : v.IsAnyObject ↔ ShapeTest.isNamed v := by
  have applied (record : Value) (ledger : Ledger) :
      outcome (Builtin.anyObject.make [] >>= fun rule => rule.apply v record) ledger =
        .ok (reportOf (if ShapeTest.isNamed v then none else some Code.formatError)) := by
    rw [Builtin.make, pure_bind, Rule.apply]
    rfl
  cases named : ShapeTest.isNamed v with
  | true => simp [IsAnyObject, applied, named, reportOf]
  | false =>
    refine iff_of_false (fun passed => ?_) (by simp)
    have found := passed .null {}
    rw [applied, named] at found
    cases found

theorem isNamed_noRecord_iff (v : Value) :
    ShapeTest.isNamed v ∧ v.isRecord = false ↔ v.isBinary := by
  cases v <;> simp [ShapeTest.isNamed, isRecord, isBinary, isMapping, isScalar, isCollection]

/-- An object of any kind that is no record is binary data, and binary data is such an object. It is
what a validator cannot validate of what the rule for objects passes, and has a code in the slots of
lists of records. Every other object is validated. -/
theorem isAnyObject_noRecord_iff (v : Value) :
    (v.IsAnyObject ∧ v.isRecord = false ↔ v.isBinary) ∧
    (∀ (validator : Validator) (ledger : Ledger),
      (v.IsAnyObject ∧ ∃ e, outcome (validator.errors v) ledger = .error e ∧
        e.kind = .rule .unvalidatable) ↔ v.isBinary) ∧
    ∀ (label entryField : Value) (validator : Validator) (list record : Value) (ledger : Ledger)
      (entries : List Value) (found : Option Report),
      outcome list.entries ledger = .ok (some entries) →
      outcome ((Rule.objects label entryField validator).apply list record) ledger = .ok found →
        ∀ i : Nat, entries[i]? = some v →
          ((v.IsAnyObject ∧ (Report.slotsFor entries.length found)[i]? =
            some (some (.code (.str Code.formatError)))) ↔ v.isBinary) := by
  refine ⟨?_, fun validator ledger => ?_, ?_⟩
  · rw [isAnyObject_iff, isNamed_noRecord_iff]
  · rw [isAnyObject_iff, validator.errors_unvalidatable_iff, isNamed_noRecord_iff]
  · intro label entryField validator list record ledger entries found walked applied i at_i
    rw [isAnyObject_iff, Rule.objects_slot_iff walked applied at_i, isNamed_noRecord_iff]

/-- Two bytes and an object in a list. -/
theorem isAnyObject_noRecord_iff_bytes :
    let rule := Rule.objects .null .null (.fields 0 [])
    let entries := [Value.bytes [0x61, 0x62], .object []]
    let found := some (Report.slots [some (.code (.str Code.formatError)), none])
    outcome (Value.list entries).entries {} = .ok (some entries) ∧
    outcome (rule.apply (.list entries) .null) {} = .ok found ∧
    (((Value.bytes [0x61, 0x62]).IsAnyObject ∧ (Report.slotsFor entries.length found)[0]? =
      some (some (.code (.str Code.formatError)))) ↔ (Value.bytes [0x61, 0x62]).isBinary) := by
  intro rule entries found
  have walked : outcome (Value.list entries).entries {} = .ok (some entries) := rfl
  have applied : outcome (rule.apply (.list entries) .null) {} = .ok found := by cbv
  exact ⟨walked, applied,
    (isAnyObject_noRecord_iff _).2.2 _ _ _ _ _ _ _ _ walked applied 0 rfl⟩

/-- Bytes are passed as an object of any kind, but are no record: no validator validates them, and
their slot in a list of records has the code for what is none. -/
theorem isAnyObject_bytes :
    let v := Value.bytes [0x61, 0x62]
    v.IsAnyObject ∧ v.isRecord = false ∧
    outcome ((Validator.fields 0 []).errors v) {} = .error (.unvalidatable .bytes) ∧
    outcome ((Rule.objects .null .null (.fields 0 [])).apply (.list [v]) .null) {} =
      .ok (some (.slots [some (.code (.str Code.formatError))])) := by
  intro v
  exact ⟨isAnyObject_iff.2 rfl, rfl, rfl, by cbv⟩

/-! ## Lists that are records -/

theorem isCollection_isRecord {v : Value} : v.isCollection ∧ v.isRecord ↔ v.kind = .stream := by
  cases v <;> simp [isCollection, isRecord, kind]

theorem isRecord_eq_false_of_isCollection {v : Value} (isList : v.isCollection)
    (noStream : v.kind ≠ .stream) : v.isRecord = false := by
  simpa [isList] using mt isCollection_isRecord.1 noStream

/-- A list that is a record is a stream, and every stream is both: rules for lists go through what
it has left, and validators do not refuse it. What is no stream either has a code from every rule
for lists or is refused by every validator. In a list of records, a list has a code in its slot
exactly when it is no stream. -/
theorem isCollection_isRecord_iff (v : Value) :
    (v.isCollection ∧ v.isRecord ↔ v.kind = .stream) ∧
    (v.kind ≠ .stream → ∀ (rule : Rule) (validator : Validator) (record : Value)
      (ledger : Ledger), rule.isList →
        outcome (rule.apply v record) ledger = .ok (reportOf (some Code.formatError)) ∨
        outcome (validator.errors v) ledger = .error (.unvalidatable v.kind)) ∧
    (∀ (serial : Nat) (xs : List Value), v = .stream serial xs →
      ∀ (rule : Rule) (validator : Validator) (record : Value) (ledger : Ledger), rule.isList →
        let left := xs.drop (ledger.takenFrom serial)
        outcome (rule.apply v record) ledger =
          outcome (rule.apply (.list left) record) (ledger.take serial left.length) ∧
        ∀ e, outcome (validator.errors v) ledger = .error e → e.kind ≠ .rule .unvalidatable) ∧
    ∀ (label entryField : Value) (validator : Validator), v.isCollection →
      (∀ ledger : Ledger, v.kind ≠ .stream →
        outcome ((Rule.objects label entryField validator).entryReport v) ledger =
          .ok (some (.code (.str Code.formatError)))) ∧
      ∀ (list record : Value) (ledger : Ledger) (entries : List Value) (found : Option Report),
        outcome list.entries ledger = .ok (some entries) →
        outcome ((Rule.objects label entryField validator).apply list record) ledger = .ok found →
          ∀ i : Nat, entries[i]? = some v →
            ((Report.slotsFor entries.length found)[i]? =
              some (some (.code (.str Code.formatError))) ↔ v.kind ≠ .stream) := by
  refine ⟨isCollection_isRecord, fun noStream rule validator record ledger isList => ?_, ?_,
    fun label entryField validator isList => ⟨fun ledger noStream => ?_, ?_⟩⟩
  · cases collection : v.isCollection with
    | false => exact .inl (Rule.apply_noCollection isList collection record ledger)
    | true =>
      right
      rw [Validator.errors,
        validator.check_noRecord (isRecord_eq_false_of_isCollection collection noStream)]
      rfl
  · rintro serial xs rfl rule validator record ledger isList
    refine ⟨(Rule.apply_stream serial xs ledger isList record).1, ?_⟩
    intro e failed unvalidatable
    cases (validator.errors_unvalidatable_iff _ ledger).1 ⟨e, failed, unvalidatable⟩
  · rw [Rule.entryReport, slotOf_check, Validator.slot,
      if_neg (by simp [isRecord_eq_false_of_isCollection isList noStream])]
    rfl
  · intro list record ledger entries found walked applied i at_i
    rw [Rule.objects_slot_iff walked applied at_i, ne_eq, ← isCollection_isRecord]
    simp [isList]

/-- A list and a stream in a list of records. -/
theorem isCollection_isRecord_iff_entries :
    let rule := Rule.objects .null .null (.fields 0 [])
    let entries := [Value.list [], .stream 1 []]
    let found := some (Report.slots [some (.code (.str Code.formatError)), none])
    ((Value.list []).kind ≠ .stream ∧ rule.isList ∧
      (outcome (rule.apply (.list []) .null) {} = .ok (reportOf (some Code.formatError)) ∨
        outcome ((Validator.fields 0 []).errors (.list [])) {} =
          .error (.unvalidatable (.items .list)))) ∧
    outcome (Value.list entries).entries {} = .ok (some entries) ∧
    outcome (rule.apply (.list entries) .null) {} = .ok found ∧
    ((Report.slotsFor entries.length found)[0]? = some (some (.code (.str Code.formatError))) ↔
      (Value.list []).kind ≠ .stream) ∧
    ((Report.slotsFor entries.length found)[1]? = some (some (.code (.str Code.formatError))) ↔
      (Value.stream 1 []).kind ≠ .stream) := by
  intro rule entries found
  obtain ⟨-, apart, -, lists⟩ := isCollection_isRecord_iff (.list [])
  obtain ⟨-, -, -, streams⟩ := isCollection_isRecord_iff (.stream 1 [])
  have walked : outcome (Value.list entries).entries {} = .ok (some entries) := rfl
  have applied : outcome (rule.apply (.list entries) .null) {} = .ok found := by cbv
  have noStream : (Value.list []).kind ≠ .stream := by decide
  exact ⟨⟨noStream, rfl, apart noStream rule _ _ _ rfl⟩, walked, applied,
    (lists _ _ _ rfl).2 _ _ _ _ _ walked applied 0 rfl,
    (streams _ _ _ rfl).2 _ _ _ _ _ walked applied 1 rfl⟩

/-- A stream is a list and a record. A rule for lists goes through it, a validator goes through its
fields, and in a list of records its slot is empty. -/
theorem isCollection_isRecord_stream :
    let v := Value.stream 1 []
    v.isCollection ∧ v.isRecord ∧
    outcome v.entries {} = .ok (some []) ∧
    outcome ((Validator.fields 0 []).errors v) {} = .ok (.dict []) ∧
    outcome ((Rule.objects .null .null (.fields 0 [])).apply (.list [v]) .null) {} = .ok none := by
  intro v
  exact ⟨rfl, rfl, rfl, by cbv, by cbv⟩

end Value

end RecordCheck
