import RecordCheck.Proofs.Totality

/-!
# How rules fail

Rules fail in three ways: with a fault, such as an operand that an operator cannot work with, where
a draft is applied, and where a switch has no case for a record. That something is no record is an
error of the validator that it is shown to, and of no rule around that validator.

## Main definitions

* `Error.IsFault`, `OnlyFaults`: errors that do not concern rules, and tests without others.
* `FailsBy`: the ways in which rules fail.

## Main statements

* `Rule.apply_failsBy`, `RuleSet.apply_failsBy`: rules fail in no other way.
* `Validator.check_failsBy`, `Validator.check_noRecord`: validators fail like rules when they are
  shown a record, and with an error of their own when they are not.
-/
set_option autoImplicit false

namespace RecordCheck

open Act

/-! ## Faults -/

/-- An error that any computation may run into. -/
def Error.IsFault (e : Error) : Prop := ∃ kind, e.kind = .fault kind

/-- A test that fails with faults only. -/
def OnlyFaults {α : Type} (test : Except Error α) : Prop := ∀ e, test = .error e → e.IsFault

namespace OnlyFaults

variable {α β : Type}

theorem ok (x : α) : OnlyFaults (.ok x) := nofun

theorem error {e : Error} (fault : e.IsFault) : OnlyFaults (.error e : Except Error α) := by
  rintro _ ⟨⟩
  exact fault

theorem bind {first : Except Error α} {next : α → Except Error β} (h : OnlyFaults first)
    (h' : ∀ x, OnlyFaults (next x)) : OnlyFaults (first >>= next) :=
  forall_error_bind h h'

theorem map {first : Except Error α} (h : OnlyFaults first) (f : α → β) :
    OnlyFaults (first.map f) :=
  forall_error_map h f

/-- The first of two tests that reports a code. -/
theorem orElse {first second : Except Error (Option String)} (h : OnlyFaults first)
    (h' : OnlyFaults second) :
    OnlyFaults (do
      match ← first with
      | some code => return some code
      | none => second) :=
  h.bind fun code => by
    cases code with
    | none => exact h'
    | some c => exact ok _

end OnlyFaults

theorem Error.textOf_onlyFaults (v : Value) : OnlyFaults (textOf v) := by
  unfold textOf
  split
  · exact .ok _
  · exact .error ⟨_, rfl⟩

/-- A test with an operator that it does not know says so, if the operator has a text. -/
theorem unknownOperator_onlyFaults {α : Type} (family : String) (operator : Value) :
    OnlyFaults (α := α) (do throw (.unknownOperator family (← Error.textOf operator))) :=
  .bind (Error.textOf_onlyFaults operator) fun _ => .error ⟨_, rfl⟩

theorem BlankTest.apply_onlyFaults (test : BlankTest) (v : Value) : OnlyFaults (test.apply v) := by
  cases test with
  | required | notEmpty | notEmptyList => exact .ok _
  | unknown operator => exact unknownOperator_onlyFaults _ operator

theorem ShapeTest.apply_onlyFaults (test : ShapeTest) (v : Value) : OnlyFaults (test.apply v) := by
  cases test with
  | scalar | named => exact .ok _
  | unknown operator => exact unknownOperator_onlyFaults _ operator

theorem Pattern.found_onlyFaults (p : Pattern) (text : List Char) : OnlyFaults (p.found text) := by
  unfold found
  split
  · exact .error ⟨_, rfl⟩
  split
  · exact .ok _
  split
  · exact .error ⟨_, rfl⟩
  · exact .ok _

theorem Match.apply_onlyFaults (m : Match) (v : Value) : OnlyFaults (m.apply v) := by
  unfold apply
  split
  · exact .bind (Error.textOf_onlyFaults v) fun text =>
      .bind (m.pattern.found_onlyFaults text.toList) fun _ => .ok _
  · exact .ok _

namespace Comparison

theorem boundOf_onlyFaults (operand : Value) : OnlyFaults (boundOf operand) := by
  unfold boundOf
  split
  · exact .ok _
  · exact .error ⟨_, rfl⟩

theorem boundsOf_onlyFaults (operand : Value) : OnlyFaults (boundsOf operand) := by
  unfold boundsOf
  split
  · exact .ok _
  · exact .error ⟨_, rfl⟩
  · exact .error ⟨_, rfl⟩

theorem above_onlyFaults (high : Value) (n : Number) : OnlyFaults (above high n) :=
  (boundOf_onlyFaults high).bind fun _ => .ok _

theorem below_onlyFaults (low : Value) (n : Number) : OnlyFaults (below low n) :=
  (boundOf_onlyFaults low).bind fun _ => .ok _

theorem outside_onlyFaults (operand : Value) (n : Number) : OnlyFaults (outside operand n) :=
  (boundsOf_onlyFaults operand).bind fun (low, high) =>
    (above_onlyFaults high n).orElse (below_onlyFaults low n)

theorem onNumber_onlyFaults {test : Number → Except Error (Option String)}
    (h : ∀ n, OnlyFaults (test n)) (v : Value) : OnlyFaults (onNumber v test) := by
  unfold onNumber
  split
  · exact h _
  · exact .ok _

theorem isAccepted_onlyFaults (operand v : Value) : OnlyFaults (isAccepted operand v) := by
  unfold isAccepted
  split
  · exact .ok _
  · exact .error ⟨_, rfl⟩

theorem againstField_onlyFaults (field v record : Value) :
    OnlyFaults (againstField field v record) := by
  unfold againstField
  dsimp only
  split
  · exact .error ⟨_, rfl⟩
  · exact .ok _

theorem onScalar_onlyFaults (c : Comparison) (v record : Value) :
    OnlyFaults (c.onScalar v record) := by
  obtain ⟨operator, operand⟩ := c
  cases operator with
  | oneOf => exact (isAccepted_onlyFaults operand v).map _
  | atMost => exact onNumber_onlyFaults (above_onlyFaults operand) v
  | atLeast => exact onNumber_onlyFaults (below_onlyFaults operand) v
  | within => exact onNumber_onlyFaults (outside_onlyFaults operand) v
  | equalTo | integer | positiveInteger | decimal | positiveDecimal => exact .ok _
  | sameAs => exact againstField_onlyFaults operand v record
  | unknown operator => exact unknownOperator_onlyFaults _ operator

theorem judge_onlyFaults (c : Comparison) (v record : Value) : OnlyFaults (c.judge v record) := by
  unfold judge
  split
  · exact onScalar_onlyFaults c v record
  split
  · exact againstField_onlyFaults _ _ record
  · exact .ok _

end Comparison

namespace Length

theorem ofBytes_onlyFaults (encoding : Value) (data : List UInt8) :
    OnlyFaults (ofBytes encoding data) := by
  unfold ofBytes
  repeat' split
  all_goals first | exact .ok _ | exact .error ⟨_, rfl⟩

theorem measure_onlyFaults (encoding v : Value) : OnlyFaults (measure encoding v) := by
  cases v with
  | bytes data | bytearray data => exact ofBytes_onlyFaults encoding data
  | _ => exact .ok _

theorem boundOf_onlyFaults (v : Value) : OnlyFaults (boundOf v) := by
  unfold boundOf
  split
  · exact .ok _
  · exact .error ⟨_, rfl⟩

theorem boundsOf_onlyFaults (v : Value) : OnlyFaults (boundsOf v) := by
  unfold boundsOf
  split
  · exact .ok _
  · exact .error ⟨_, rfl⟩
  · exact .error ⟨_, rfl⟩

theorem above_onlyFaults (high : Value) (length : Nat) : OnlyFaults (above high length) :=
  (boundOf_onlyFaults high).bind fun _ => .ok _

theorem below_onlyFaults (low : Value) (length : Nat) : OnlyFaults (below low length) :=
  (boundOf_onlyFaults low).bind fun _ => .ok _

theorem outside_onlyFaults (low high : Value) (length : Nat) :
    OnlyFaults (outside low high length) :=
  (above_onlyFaults high length).orElse (below_onlyFaults low length)

theorem onLength_onlyFaults (l : Length) (length : Nat) : OnlyFaults (l.onLength length) := by
  obtain ⟨operator, bounds, encoding⟩ := l
  cases operator with
  | atMost => exact above_onlyFaults bounds length
  | atLeast => exact below_onlyFaults bounds length
  | exactly => exact outside_onlyFaults bounds bounds length
  | between =>
    exact (boundsOf_onlyFaults bounds).bind fun (low, high) => outside_onlyFaults low high length
  | unknown operator => exact unknownOperator_onlyFaults _ operator

theorem judge_onlyFaults (l : Length) (v : Value) : OnlyFaults (l.judge v) :=
  (measure_onlyFaults l.encoding v).bind fun length => by
    cases length with
    | some length => exact onLength_onlyFaults l length
    | none => exact .ok _

end Length

/-! ## Ways of failing -/

/-- The ways in which rules that consist of the given pieces fail. -/
inductive FailsBy (pieces : List Piece) : Error → Prop
  | fault {e : Error} : e.IsFault → FailsBy pieces e
  /-- A draft is applied. -/
  | draft {d : Draft} : .rule (.draft d) ∈ pieces → FailsBy pieces .draft
  /-- A switch has no case for a record. -/
  | noCase {serial : Nat} {field v : Value} {cases : List (Value × Validator)} :
    .validator (.switch serial field cases) ∈ pieces → FailsBy pieces (.noCase field v)

/-- An action that fails like rules that consist of the given pieces. -/
abbrev Act.FailsLike {α : Type} (a : Act α) (pieces : List Piece) : Prop :=
  Ensures a (fun _ => True) (FailsBy pieces)

namespace FailsBy

variable {pieces more : List Piece} {e : Error}

theorem mono (h : FailsBy pieces e) (sub : pieces ⊆ more) : FailsBy more e := by
  cases h with
  | fault isFault => exact .fault isFault
  | draft member => exact .draft (sub member)
  | noCase member => exact .noCase (sub member)

/-- What rules fail with is a fault, or of one of two kinds. -/
theorem kind_cases (h : FailsBy pieces e) :
    e.IsFault ∨ (e.kind = .rule .draft ∧ ∃ d, .rule (.draft d) ∈ pieces) ∨
      e.kind = .rule .noCase := by
  cases h with
  | fault isFault => exact .inl isFault
  | draft member => exact .inr (.inl ⟨rfl, _, member⟩)
  | noCase => exact .inr (.inr rfl)

/-- What rules fail with never says that something is no record. -/
theorem kind_ne_unvalidatable (h : FailsBy pieces e) : e.kind ≠ .rule .unvalidatable := by
  obtain ⟨_, kind⟩ | ⟨kind, -⟩ | kind := h.kind_cases <;> simp [kind]

/-- What rules fail with is never the failure of an assertion. -/
theorem kind_ne_invalid (h : FailsBy pieces e) : e.kind ≠ .rule .invalid := by
  obtain ⟨_, kind⟩ | ⟨kind, -⟩ | kind := h.kind_cases <;> simp [kind]

/-- Rules without a draft inside never fail like a draft. -/
theorem exists_draft (h : FailsBy pieces e) (draft : e.kind = .rule .draft) :
    ∃ d, .rule (.draft d) ∈ pieces := by
  obtain ⟨_, kind⟩ | ⟨-, inside⟩ | kind := h.kind_cases
  · simp [kind] at draft
  · exact inside
  · simp [kind] at draft

end FailsBy

section

variable {α : Type} {pieces more : List Piece} {a : Act α}

theorem Act.FailsLike.mono (h : a.FailsLike pieces) (sub : pieces ⊆ more) : a.FailsLike more :=
  Ensures.mono h (fun _ h => h) fun _ failed => failed.mono sub

theorem OnlyFaults.failsLike {r : Except Error α} (h : OnlyFaults r) :
    Act.FailsLike (liftM r) pieces :=
  Ensures.lift (fun _ _ => trivial) fun e failed => .fault (h e failed)

end

theorem Comparison.apply_failsLike (c : Comparison) (v record : Value) (pieces : List Piece) :
    (c.apply v record).FailsLike pieces := by
  have judged (operand : Value) :
      FailsLike (liftM (Comparison.judge { c with operand } v record)) pieces :=
    (judge_onlyFaults _ v record).failsLike
  have left {serial : Nat} {entries : List Value} {f : List Value → Ledger → Ledger} :
      FailsLike (do
        let left ← Value.left serial entries
        modify (f left)
        liftM (Comparison.judge { c with operand := .tuple left } v record)) pieces :=
    Ensures.bind (P := fun _ => True) (fun _ => trivial) fun left _ =>
      Ensures.bind (P := fun _ => True) (fun _ => trivial) fun _ _ => judged (.tuple left)
  unfold apply
  split
  · exact left
  · exact left
  · exact judged c.operand

theorem Length.apply_failsLike (l : Length) (v : Value) (pieces : List Piece) :
    (l.apply v).FailsLike pieces := by
  have judged (bounds : Value) : FailsLike (liftM (Length.judge { l with bounds } v)) pieces :=
    (judge_onlyFaults _ v).failsLike
  unfold apply
  split
  · exact Ensures.bind (P := fun _ => True) (fun _ => trivial) fun left _ =>
      Ensures.bind (P := fun _ => True) (fun _ => trivial) fun _ _ => judged (.tuple left)
  · exact judged l.bounds

theorem Value.field_onlyFaults (record name : Value) : OnlyFaults (record.field name) := by
  unfold field
  split
  · exact .ok _
  · exact .error ⟨_, rfl⟩

/-- What is no record is an error of the validator. -/
theorem Validator.check_noRecord (validator : Validator) {record : Value}
    (noRecord : record.isRecord = false) :
    validator.check record = throw (.unvalidatable record.kind) := by
  cases validator <;> rw [check, if_neg (by simp [noRecord])]

/-- A missing case is told, unless a number in it has too many digits for a message. -/
theorem Error.ofMissingCase_failsBy {pieces : List Piece} {serial : Nat} {field : Value}
    {cases : List (Value × Validator)} (member : .validator (.switch serial field cases) ∈ pieces)
    (v : Value) : FailsBy pieces (ofMissingCase field v) := by
  unfold ofMissingCase
  split
  · exact .noCase member
  · exact .fault ⟨_, rfl⟩

/-- An entry that is no record fills its slot; others fail as they do alone. -/
theorem slotOf_failsLike {validator : Validator} {entry : Value}
    (checked : entry.isRecord → (validator.check entry).FailsLike validator.pieces) :
    (slotOf (validator.check entry)).FailsLike validator.pieces := by
  cases isRecord : entry.isRecord with
  | true =>
    refine Ensures.tryCatch (.map (checked isRecord)) fun e failed => ?_
    split
    · exact .pure trivial
    · exact .throw failed
  | false =>
    rw [validator.check_noRecord isRecord]
    exact fun _ => trivial

/-! ## Whole trees of rules -/

mutual

theorem Rule.apply_failsBy : (r : Rule) → (v record : Value) →
    (r.apply v record).FailsLike r.pieces
  | .blank test, v, _ => Ensures.bind (test.apply_onlyFaults v).failsLike fun _ _ => .pure trivial
  | .comparison c, v, record => Ensures.bind (c.apply_failsLike v record _) fun _ _ => .pure trivial
  | .length l, v, _ => Ensures.bind (l.apply_failsLike v _) fun _ _ => .pure trivial
  | .shape test, v, _ => Ensures.bind (test.apply_onlyFaults v).failsLike fun _ _ => .pure trivial
  | .pattern m, v, _ => Ensures.bind (m.apply_onlyFaults v).failsLike fun _ _ => .pure trivial
  | .timezone _, _, _ => .pure trivial
  | .draft _, _, _ => .throw (.draft (.head _))
  | .object field entryField validator, v, _ => by
    rw [Rule.apply]
    split
    · next mapping =>
      have isRecord : v.isRecord := by cases v <;> simp_all [Value.isMapping, Value.isRecord]
      exact .map ((Validator.check_failsBy validator v isRecord).mono (List.subset_cons_self _ _))
    · exact .pure trivial
  | .listOf field serial entryField rules, v, record => by
    rw [Rule.apply_listOf]
    exact Value.eachEntry_ensures (S := fun _ _ => True) trivial
      (fun entry _ => .map ((RuleSet.apply_failsBy rules entry _).mono (List.subset_cons_self _ _)))
      fun _ _ _ => trivial
  | .objects field entryField validator, v, record => by
    rw [Rule.apply_objects]
    exact Value.eachEntry_ensures (S := fun _ _ => True) trivial
      (fun entry _ => (slotOf_failsLike (Validator.check_failsBy validator entry)).mono
        (List.subset_cons_self _ _))
      fun _ _ _ => trivial
  | .all serial rules, v, record =>
    (RuleSet.apply_failsBy rules v record).mono (List.subset_cons_self _ _)

theorem RuleSet.apply_failsBy : (s : RuleSet) → (v record : Value) →
    (s.apply v record).FailsLike s.pieces
  | .mk rules _, v, record =>
    Ensures.bind ((firstReport_failsBy rules v record).mono (List.subset_cons_self _ _))
      fun _ _ => .pure trivial

theorem firstReport_failsBy : (rules : List Rule) → (v record : Value) →
    (firstReport rules v record).FailsLike (rulePieces rules)
  | [], _, _ => .pure trivial
  | rule :: rules, v, record => by
    have rest : (firstReport rules v record).FailsLike (rulePieces (rule :: rules)) :=
      (firstReport_failsBy rules v record).mono (List.subset_append_right _ _)
    rw [firstReport]
    split
    · exact rest
    · refine Ensures.bind ((Rule.apply_failsBy rule v record).mono (List.subset_append_left _ _))
        fun found _ => ?_
      cases found with
      | some report => exact .pure trivial
      | none => exact rest

theorem Validator.check_failsBy : (validator : Validator) → (record : Value) → record.isRecord →
    (validator.check record).FailsLike validator.pieces
  | .fields serial entries, record, isRecord => by
    rw [Validator.check, if_pos isRecord]
    exact (reports_failsBy entries record).mono (List.subset_cons_self _ _)
  | .switch serial field cases, record, isRecord => by
    have missing := Error.ofMissingCase_failsBy
      (Validator.self_mem_pieces (.switch serial field cases))
    rw [Validator.check, if_pos isRecord]
    refine Ensures.bind (record.field_onlyFaults field).failsLike fun v _ => ?_
    dsimp only
    split
    · rw [checkCase_eq]
      split
      · next validator chosen =>
        obtain ⟨key, member⟩ := Keyed.mem_of_find? chosen
        exact (cases_failBy cases record isRecord _ member).mono fun x inside =>
          .tail _ (mem_casePieces.2 ⟨_, member, inside⟩)
      · exact .throw (missing v)
    · exact .throw (missing v)

theorem cases_failBy : (cases : List (Value × Validator)) → (record : Value) → record.isRecord →
    ∀ case ∈ cases, (case.2.check record).FailsLike case.2.pieces
  | [], _, _, _, member => nomatch member
  | (key, validator) :: cases, record, isRecord, case, member => by
    rcases List.mem_cons.1 member with rfl | member
    · exact Validator.check_failsBy validator record isRecord
    · exact cases_failBy cases record isRecord case member

theorem reports_failsBy : (entries : List (Value × RuleSet)) → (record : Value) →
    (reports entries record).FailsLike (fieldPieces entries)
  | [], _ => .pure trivial
  | (field, rules) :: entries, record => by
    rw [reports]
    refine Ensures.bind (record.field_onlyFaults field).failsLike fun v _ => ?_
    refine Ensures.bind ((RuleSet.apply_failsBy rules v record).mono
      (List.subset_append_left _ _)) fun _ _ => ?_
    exact Ensures.bind ((reports_failsBy entries record).mono (List.subset_append_right _ _))
      fun _ _ => .pure trivial

end

end RecordCheck
