import RecordCheck.Proofs.Evaluation

/-!
# Lists, tuples and streams

A rule for lists goes through entries, whatever holds them. A list or a tuple shows its entries to
every rule of a set, but a stream has none left after the first rule for lists has gone through it:
the rules behind find an empty list and pass.

## Main statements

* `Rule.apply_stream`: a stream is a list of the entries that it has left.
* `firstReport_stream`: from a stream, only the first rule for lists gets entries.
* `RuleSet.apply_containers`: when a set reports the same of lists, tuples and streams.
-/
set_option autoImplicit false

namespace RecordCheck

open Act

variable {rule : Rule} {rules : List Rule} {serial : Nat} {xs : List Value} {ledger : Ledger}

theorem Rule.sees_of_isPresent {v : Value} (present : v.isAbsent = false) : rule.sees v := by
  simp [sees, present]

/-! ## Lists and tuples -/

theorem firstReport_items (lists : ∀ rule ∈ rules, rule.isList) (container other : Container)
    (record : Value) : firstReport rules (.items container xs) record =
      firstReport rules (.items other xs) record := by
  induction rules with
  | nil => rfl
  | cons rule rules ih =>
    obtain ⟨first, others⟩ := List.forall_mem_cons.1 lists
    have absent (container : Container) : (Value.items container xs).isAbsent = false := rfl
    rw [firstReport, firstReport, absent, absent, Rule.apply_list first, Rule.apply_list first,
      ih others]

/-! ## Streams -/

/-- A stream is a list of the entries that it has left, which are taken from it first. -/
theorem Rule.apply_stream (serial : Nat) (xs : List Value) (ledger : Ledger) (isList : rule.isList)
    (record : Value) :
    outcome (rule.apply (.stream serial xs) record) ledger =
        outcome (rule.apply (.list (xs.drop (ledger.takenFrom serial))) record)
          (ledger.take serial (xs.drop (ledger.takenFrom serial)).length) ∧
      after (rule.apply (.stream serial xs) record) ledger =
        after (rule.apply (.list (xs.drop (ledger.takenFrom serial))) record)
          (ledger.take serial (xs.drop (ledger.takenFrom serial)).length) := by
  rw [apply_list isList, apply_entries isList, Value.eachEntry, outcome_bind, after_bind]
  exact ⟨rfl, rfl⟩

theorem firstReport_drained (lists : ∀ rule ∈ rules, rule.isList) (record : Value)
    (drained : xs.length ≤ ledger.takenFrom serial) :
    outcome (firstReport rules (.stream serial xs) record) ledger = .ok none := by
  induction rules generalizing ledger with
  | nil => rfl
  | cons rule rules ih =>
    obtain ⟨first, others⟩ := List.forall_mem_cons.1 lists
    obtain ⟨passes, leaves⟩ := Rule.apply_stream serial xs ledger first record
    rw [List.drop_eq_nil_of_le drained, Rule.apply_list first] at passes leaves
    rw [firstReport_cons_of_seen (Rule.sees_of_isPresent rfl), passes, leaves]
    refine ih others ?_
    change xs.length ≤ (ledger.take serial 0).takenFrom serial
    rw [Ledger.takenFrom_take, if_pos rfl]
    exact drained

section Fresh

variable (fresh : ledger.takenFrom serial = 0) (outside : (Value.list xs).StreamsIn (· ≠ serial))
include fresh outside

/-- From a stream only the first of the rules for lists gets entries. -/
theorem firstReport_stream (lists : ∀ rule ∈ rules, rule.isList)
    (apart : ∀ rule ∈ rules, ¬ rule.TakesFrom serial) (record : Value) :
    outcome (firstReport rules (.stream serial xs) record) ledger =
      outcome (firstReport (rules.take 1) (.list xs) record) ledger := by
  cases rules with
  | nil => rfl
  | cons rule rules =>
    obtain ⟨first, others⟩ := List.forall_mem_cons.1 lists
    have sources : SourcesIn (· ≠ serial) rule.pieces := by
      rintro x hx other takes rfl
      exact apart rule (by simp) ⟨x, hx, takes⟩
    have within := rule.apply_within sources (.list xs) record outside
    have agree : (ledger.take serial xs.length).AgreeOn (· ≠ serial) ledger := by
      intro other differs
      rw [Ledger.takenFrom_take, if_neg differs]
    obtain ⟨same, left⟩ := Rule.apply_stream serial xs ledger first record
    rw [fresh, List.drop_zero] at same left
    rw [within.same agree] at same
    have drained : xs.length ≤ (after (rule.apply (.stream serial xs) record) ledger).takenFrom
        serial := by
      rw [left, within.frame _ serial (by simp), Ledger.takenFrom_take, if_pos rfl]
      omega
    rw [List.take_succ_cons, List.take_zero,
      firstReport_single (by simp [Value.isAbsent]) record,
      firstReport_cons_of_seen (Rule.sees_of_isPresent rfl), same,
      firstReport_drained others record drained]
    rcases outcome (rule.apply (.list xs) record) ledger with e | _ | report <;> rfl

end Fresh

namespace RuleSet

/-- Rules for lists report the same of a tuple as of a list. Of a stream from which nothing has been
taken, which is found neither in its own entries nor in the rules, the first rule reports what it
reports of a list, and the others pass. So a set reports the same of all three exactly when its
first rule does not pass the list or all of its rules do. -/
theorem apply_containers (rules : List Rule) (override : Value) (record : Value) (xs : List Value)
    (serial : Nat) (ledger : Ledger) (lists : ∀ rule ∈ rules, rule.isList)
    (fresh : ledger.takenFrom serial = 0) (outside : (Value.list xs).StreamsIn (· ≠ serial))
    (apart : ∀ rule ∈ rules, ¬ rule.TakesFrom serial) :
    let report (rules : List Rule) (v : Value) :=
      outcome ((RuleSet.mk rules override).apply v record) ledger
    report rules (.tuple xs) = report rules (.list xs) ∧
      report rules (.stream serial xs) = report (rules.take 1) (.list xs) ∧
      (report rules (.stream serial xs) = report rules (.list xs) ↔
        report (rules.take 1) (.list xs) ≠ .ok none ∨ report rules (.list xs) = .ok none) := by
  intro report
  have first : report rules (.stream serial xs) = report (rules.take 1) (.list xs) := by
    change outcome _ ledger = outcome _ ledger
    rw [outcome_apply, outcome_apply, firstReport_stream fresh outside lists apart]
  refine ⟨?_, first, ?_⟩
  · change outcome _ ledger = outcome _ ledger
    rw [outcome_apply, outcome_apply, firstReport_items lists]
  · have stopped (reported : report (rules.take 1) (.list xs) ≠ .ok none) :
        report rules (.list xs) = report (rules.take 1) (.list xs) := by
      have split := apply_append_of_stopped override (rules.drop 1) reported
      rwa [List.take_append_drop] at split
    rw [first]
    constructor
    · intro same
      rw [same]
      exact ne_or_eq _ _
    · intro either
      by_cases passed : report (rules.take 1) (.list xs) = .ok none
      · rw [passed, either.resolve_left (not_not_intro passed)]
      · exact (stopped passed).symm

/-- Entries that have to be text for the first rule, which they pass, and whole numbers for the
second, which does not see them in a stream. -/
theorem apply_containers_strings :
    let rules := [Rule.listOf .null 0 "entry" (.mk [.shape .scalar] .null),
      .listOf .null 0 "entry" (.mk [.comparison { operator := .integer }] .null)]
    let xs := [Value.str "x"]
    let report (rules : List Rule) (v : Value) :=
      outcome ((RuleSet.mk rules .null).apply v .null) {}
    (∀ rule ∈ rules, rule.isList) ∧ ({} : Ledger).takenFrom 1 = 0 ∧
      (Value.list xs).StreamsIn (· ≠ 1) ∧ (∀ rule ∈ rules, ¬ rule.TakesFrom 1) ∧
      report rules (.tuple xs) = report rules (.list xs) ∧
      report rules (.stream 1 xs) = report (rules.take 1) (.list xs) := by
  intro rules xs report
  have lists : ∀ rule ∈ rules, rule.isList := by simp [rules, Rule.isList]
  have outside : (Value.list xs).StreamsIn (· ≠ 1) := Value.streamsIn_of_isSteady rfl _
  have apart : ∀ rule ∈ rules, ¬ rule.TakesFrom 1 := by
    simp [rules, Rule.TakesFrom, Rule.pieces, RuleSet.pieces, rulePieces, Piece.source?,
      Comparison.source?]
  obtain ⟨tuple, stream, -⟩ := apply_containers rules .null .null xs 1 {} lists rfl outside apart
  exact ⟨lists, rfl, outside, apart, tuple, stream⟩

/-- A list and a stream of the same entry: what is no whole number is reported of the list alone. -/
theorem apply_stream_unseen :
    let g : Registry := {}
    let s := RuleSet.mk [.listOf .null 0 "entry" (.mk [.shape .scalar] .null),
      .listOf .null 0 "entry" (.mk [.comparison { operator := .integer }] .null)] .null
    outcome (g.parse (.list [.dict [(.str "list_of", .str "string")],
      .dict [(.str "list_of", .str "integer")]])) {} = .ok s ∧
    (∀ rule ∈ s.rules, rule.isList) ∧
    outcome (s.apply (.list [.str "x"]) .null) {} =
      .ok (some (.ofCode (.str Code.notInteger))) ∧
    outcome (s.apply (.tuple [.str "x"]) .null) {} =
      .ok (some (.ofCode (.str Code.notInteger))) ∧
    outcome (s.apply (.stream 1 [.str "x"]) .null) {} = .ok none := by
  intro g s
  have string : Registry.parseWithin g [] (g.deeper []) (.str "string") =
      pure (.mk [.shape .scalar] .null) :=
    Registry.parseWithin_name (b := .string) rfl rfl rfl
  have integer : Registry.parseWithin g [] (g.deeper []) (.str "integer") =
      pure (.mk [.comparison { operator := .integer }] .null) :=
    Registry.parseWithin_name (b := .integer) rfl rfl rfl
  have listOf (name : String) : Registry.ruleWithin g [] (g.deeper []) ⟨"list_of", .str name⟩ = do
      return .listOf .null 0 "entry" (← Registry.parseWithin g [] (g.deeper []) (.str name)) := by
    rw [Registry.ruleWithin_draft (b := .listOf) rfl rfl (List.mem_singleton_self _),
      Registry.finishWithin]
  have calls : Description.calls (.list [.dict [(.str "list_of", .str "string")],
      .dict [(.str "list_of", .str "integer")]]) =
        [.ok ⟨"list_of", .str "string"⟩, .ok ⟨"list_of", .str "integer"⟩] := rfl
  have parsed : outcome (g.parse (.list [.dict [(.str "list_of", .str "string")],
      .dict [(.str "list_of", .str "integer")]])) {} = .ok s := by
    rw [Registry.parse, Registry.parseWithin_eq, calls]
    simp [Registry.callWithin, listOf, string, integer, s]
  exact ⟨parsed, by simp [s, rules, Rule.isList], by cbv, by cbv, by cbv⟩

end RuleSet

end RecordCheck
