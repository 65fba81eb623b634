import RecordCheck.Proofs.Concatenation
import RecordCheck.Proofs.Entries

/-!
# Lists in turn and at once

Two rules for the entries of a list can be put in two descriptions or in one. In two, all entries
are checked by the first rules before any of them is checked by the second ones; in one, each entry
is checked by both in turn, and the second rules are not asked about an entry that the first ones
reject.

## Main definitions

* `Description.inTurn`, `Description.atOnce`: both ways to describe the entries of a list.
* `RuleSet.forEntries`: the rule for a list whose entries have rules of their own.

## Main statements

* `Registry.parse_inTurn`, `Registry.parse_atOnce`: what is read from both descriptions.
* `Rule.entryReport_merge`: the report about one entry that is checked by both rules.
* `Registry.lists_fuse`: both ways pass the same lists.
-/
set_option autoImplicit false

namespace RecordCheck

open Act

namespace Description

/-- The entries of a list, described by the arguments of a call. -/
def entriesOf (argument : Value) : Value := .dict [(.str Builtin.listOf.name, .list [argument])]

/-- All entries of a list have to pass one description, and then all have to pass another. -/
def inTurn (d d' : Value) : Value := .list [entriesOf d, entriesOf d']

/-- Each entry of a list has to pass two descriptions. -/
def atOnce (d d' : Value) : Value := entriesOf (.list [d, d'])

theorem calls_listSingle (d : Value) : calls (.list [d]) = calls d := by
  simp [listCalls]

end Description

/-- The rule for a list whose entries have rules of their own. -/
def RuleSet.forEntries (g : Registry) (s : RuleSet) : Rule := .listOf .null 0 g.entryField s

namespace Act.IsStill

variable {α β : Type}

/-- Actions that do not look at streams may be exchanged for others that come to the same. -/
theorem mapM_congr {f k : α → Act β} {xs : List α} (first : ∀ x ∈ xs, IsStill (f x))
    (second : ∀ x ∈ xs, IsStill (k x)) (same : ∀ x ∈ xs, outcome (f x) {} = outcome (k x) {})
    (l m : Ledger) : outcome (xs.mapM f) l = outcome (xs.mapM k) m := by
  induction xs generalizing l m with
  | nil => rfl
  | cons x xs ih =>
    obtain ⟨own, rest⟩ := List.forall_mem_cons.1 first
    obtain ⟨own', rest'⟩ := List.forall_mem_cons.1 second
    obtain ⟨equal, others⟩ := List.forall_mem_cons.1 same
    rw [List.mapM_cons, List.mapM_cons, outcome_bind, outcome_bind, own.outcome_eq l {},
      own'.outcome_eq m {}, equal]
    cases outcome (k x) {} with
    | error e => rfl
    | ok y =>
      dsimp only
      rw [outcome_bind, outcome_bind, ih rest rest' others (after (f x) l) (after (k x) m)]
      rfl

/-- Nothing comes of a list when nothing comes of any entry. -/
theorem mapM_none_iff {f : α → Act (Option β)} {xs : List α} (each : ∀ x ∈ xs, IsStill (f x))
    (l : Ledger) : (∃ ys, outcome (xs.mapM f) l = .ok ys ∧ ∀ y ∈ ys, y = none) ↔
      ∀ x ∈ xs, outcome (f x) {} = .ok none := by
  simp only [mapM_ok_iff (m := {}) each]
  constructor
  · rintro ⟨ys, paired, empty⟩ x member
    obtain ⟨y, inside, own⟩ := exists_partner paired.flip member
    rw [own, empty y inside]
  · intro passed
    refine ⟨xs.map fun _ => none, ?_, by simp⟩
    exact List.forall₂_map_right_iff.2 (List.forall₂_same.2 passed)

end Act.IsStill

namespace Registry

variable {g : Registry} (named : g.find? Builtin.listOf.name = some (.builtin .listOf))
include named

theorem rule_listOf (d : Value) :
    g.rule ⟨Builtin.listOf.name, .list [d]⟩ = RuleSet.forEntries g <$> g.parse d := by
  have inside : d ∈ (Call.mk Builtin.listOf.name (.list [d])).arguments :=
    List.mem_singleton_self d
  rw [rule, ruleWithin_draft (d := ⟨.list, d, .null, .null⟩) named rfl inside, finishWithin]
  simp only [bind_pure_comp]
  rfl

theorem parse_entriesOf (d : Value) : g.parse (Description.entriesOf d) = do
    return .mk [(← g.parse d).forEntries g] .null := by
  have read : callWithin g [] (g.deeper []) (.ok ⟨Builtin.listOf.name, .list [d]⟩) =
      RuleSet.forEntries g <$> g.parse d := rule_listOf named d
  rw [parse, parseWithin_eq, Description.entriesOf, Description.calls_single]
  simp [read]

/-- The rules for the entries are those of both descriptions in a row. -/
theorem parse_atOnce (d d' : Value) : g.parse (Description.atOnce d d') = do
    let s ← g.parse d
    let t ← g.parse d'
    return .mk [(s.merge t).forEntries g] .null := by
  have both : g.parse (.list [d, d']) = (do
      let s ← g.parse d
      let t ← g.parse d'
      return s.merge t) := by
    rw [← parse_congr (Description.calls_listSingle d),
      ← parse_congr (Description.calls_listSingle d')]
    exact parse_append (.inl rfl) [d] [d']
  rw [Description.atOnce, parse_entriesOf named, both]
  simp

/-- There is one rule for the list after the other. -/
theorem parse_inTurn (d d' : Value) : g.parse (Description.inTurn d d') = do
    let s ← g.parse d
    let t ← g.parse d'
    return .mk [s.forEntries g, t.forEntries g] .null := by
  have both : g.parse (Description.inTurn d d') = (do
      let s ← g.parse (Description.entriesOf d)
      let t ← g.parse (Description.entriesOf d')
      return s.merge t) := by
    rw [← parse_congr (Description.calls_listSingle (Description.entriesOf d)),
      ← parse_congr (Description.calls_listSingle (Description.entriesOf d'))]
    exact parse_append (.inl rfl) [_] [_]
  rw [both, parse_entriesOf named, parse_entriesOf named]
  simp [RuleSet.merge, RuleSet.rules, RuleSet.override]

end Registry

namespace Rule

variable {g : Registry}

/-- The second rules are asked about an entry when the first ones have nothing to report. -/
theorem entryReport_merge {s t : RuleSet} (bare : s.override = .null) (bare' : t.override = .null)
    (entry : Value) : ((s.merge t).forEntries g).entryReport entry = (do
      match ← (s.forEntries g).entryReport entry with
      | some report => return some report
      | none => (t.forEntries g).entryReport entry) := by
  obtain ⟨rules, _⟩ := s
  obtain ⟨others, _⟩ := t
  cases bare
  cases bare'
  simp only [RuleSet.forEntries, entryReport, RuleSet.merge, RuleSet.rules, RuleSet.override,
    RuleSet.apply_null, firstReport_append, map_bind, bind_map_left]
  refine bind_congr fun found => ?_
  cases found <;> simp

/-- A rule for lists passes a list when it has nothing to report about any entry. -/
theorem apply_list_passes_iff {rule : Rule} {entries : List Value} (isList : rule.isList)
    (sourceless : ∀ x ∈ rule.pieces, x.source? = none) (steady : ∀ z ∈ entries, z.isSteady)
    (container : Container) (record : Value) (ledger : Ledger) :
    outcome (rule.apply (.items container entries) record) ledger = .ok none ↔
      ∀ z ∈ entries, outcome (rule.entryReport z) {} = .ok none := by
  rw [← IsStill.mapM_none_iff (l := ledger) fun z member =>
    entryReport_still sourceless (steady z member), apply_list isList, outcome_map_ok]
  simp only [← Report.ofSlots_eq_none]

end Rule

namespace RuleSet

theorem merge_source? {s t : RuleSet} (plain : ∀ x ∈ s.pieces, x.source? = none)
    (plain' : ∀ x ∈ t.pieces, x.source? = none) : ∀ x ∈ (s.merge t).pieces, x.source? = none := by
  intro x hx
  rcases mem_pieces.1 hx with rfl | ⟨rule, member, inside⟩
  · rfl
  · rcases List.mem_append.1 member with own | other
    · exact plain x (mem_pieces.2 (.inr ⟨rule, own, inside⟩))
    · exact plain' x (mem_pieces.2 (.inr ⟨rule, other, inside⟩))

theorem forEntries_source? {s : RuleSet} (g : Registry) (plain : ∀ x ∈ s.pieces, x.source? = none) :
    ∀ x ∈ (s.forEntries g).pieces, x.source? = none :=
  List.forall_mem_cons.2 ⟨rfl, plain⟩

section Lists

variable {g : Registry} {s t : RuleSet} (bare : s.override = .null) (bare' : t.override = .null)
  (plain : ∀ x ∈ s.pieces, x.source? = none) (plain' : ∀ x ∈ t.pieces, x.source? = none)
  {entries : List Value} (steady : ∀ z ∈ entries, z.isSteady) (container : Container)
  (record : Value) (ledger : Ledger)
include bare bare' plain plain' steady

/-- An entry passes both rules at once when it passes one and then the other. -/
theorem apply_both_passes_iff :
    outcome (((s.merge t).forEntries g).apply (.items container entries) record) ledger =
        .ok none ↔
      outcome ((s.forEntries g).apply (.items container entries) record) ledger = .ok none ∧
        outcome ((t.forEntries g).apply (.items container entries) record) ledger = .ok none := by
  have first := forEntries_source? g plain
  have second := forEntries_source? g plain'
  rw [Rule.apply_list_passes_iff rfl (forEntries_source? g (merge_source? plain plain')) steady,
    Rule.apply_list_passes_iff rfl first steady, Rule.apply_list_passes_iff rfl second steady,
    ← forall₂_and]
  refine forall₂_congr fun z member => ?_
  rw [Rule.entryReport_merge bare bare', outcome_bind,
    (Rule.entryReport_still second (steady z member)).outcome_eq {}
      (after ((s.forEntries g).entryReport z) {})]
  rcases outcome ((s.forEntries g).entryReport z) {} with e | _ | report <;> simp

/-- Where the first rules pass all entries, both rules at once report what the second ones do. -/
theorem apply_both_of_passed
    (passed : outcome ((s.forEntries g).apply (.items container entries) record) ledger =
      .ok none) :
    outcome (((s.merge t).forEntries g).apply (.items container entries) record) ledger =
      outcome ((t.forEntries g).apply (.items container entries) record) ledger := by
  have first := forEntries_source? g plain
  have second := forEntries_source? g plain'
  have both := forEntries_source? g (merge_source? plain plain')
  have each := (Rule.apply_list_passes_iff rfl first steady container record ledger).1 passed
  rw [Rule.apply_list rfl, Rule.apply_list rfl, outcome_map, outcome_map]
  refine congrArg _ (IsStill.mapM_congr (fun z member => ?_) (fun z member => ?_)
    (fun z member => ?_) _ _)
  · exact Rule.entryReport_still both (steady z member)
  · exact Rule.entryReport_still second (steady z member)
  · rw [Rule.entryReport_merge bare bare', outcome_bind, each z member]
    exact (Rule.entryReport_still second (steady z member)).outcome_eq _ _

/-- One rule for a list after the other passes what both rules at once pass, and where the first
rules pass all entries the reports are the same. -/
theorem apply_lists_fuse :
    let inTurn := RuleSet.mk [s.forEntries g, t.forEntries g] .null
    let atOnce := RuleSet.mk [(s.merge t).forEntries g] .null
    let v := Value.items container entries
    (outcome (inTurn.apply v record) ledger = .ok none ↔
        outcome (atOnce.apply v record) ledger = .ok none) ∧
      (outcome ((s.forEntries g).apply v record) ledger = .ok none →
        outcome (inTurn.apply v record) ledger = outcome (atOnce.apply v record) ledger) := by
  intro inTurn atOnce v
  have vSteady : v.isSteady := Value.areSteady_iff.2 steady
  have apart : AreApart [s.forEntries g, t.forEntries g] := by
    refine .of_source?_eq_none fun x hx => ?_
    obtain ⟨rule, member, inside⟩ := mem_rulePieces.1 hx
    rcases List.mem_pair.1 member with rfl | rfl
    · exact forEntries_source? g plain x inside
    · exact forEntries_source? g plain' x inside
  have alone : firstReport [(s.merge t).forEntries g] v record =
      ((s.merge t).forEntries g).apply v record := firstReport_single rfl record
  rw [apply_null, apply_null, alone]
  constructor
  · rw [firstReport_passes_iff vSteady apart, apply_both_passes_iff bare bare' plain plain' steady]
    simp [Rule.sees, v, Value.isAbsent]
  · intro passed
    obtain ⟨others, -⟩ := List.pairwise_cons.1 apart
    rw [firstReport_cons_of_passed vSteady others fun _ => passed, firstReport_single rfl,
      apply_both_of_passed bare bare' plain plain' steady container record ledger passed]

end Lists

end RuleSet

/-- No rule for lists sees an absent value. -/
theorem RuleSet.apply_lists_absent (g : Registry) (sets : List RuleSet) {v : Value}
    (absent : v.isAbsent) (record : Value) :
    (RuleSet.mk (sets.map (forEntries g)) .null).apply v record = pure none := by
  rw [apply_null]
  induction sets with
  | nil => rfl
  | cons s sets ih =>
    have unseen : (s.forEntries g).sees v = false := by
      simp [forEntries, Rule.sees, Rule.seesAbsent, absent]
    rw [List.map_cons, firstReport_cons_of_unseen unseen, ih]

namespace Registry

/-- Two descriptions of the entries of a list can be given in turn or at once. Either both ways fail
to be read in the same way, or what is read passes the same lists without streams, whatever else is
in the record and has been taken from streams; where all entries pass the first description, both
ways report the same about the list; and absent values pass both. -/
theorem lists_fuse {g : Registry} (sourceless : g.IsSourceless)
    (named : g.find? Builtin.listOf.name = some (.builtin .listOf)) (d d' : Value)
    (before : Ledger) :
    (∃ e, outcome (g.parse (Description.inTurn d d')) before = .error e ∧
      outcome (g.parse (Description.atOnce d d')) before = .error e) ∨
    ∃ s inTurn atOnce, outcome (g.parse d) before = .ok s ∧
      outcome (g.parse (Description.inTurn d d')) before = .ok inTurn ∧
      outcome (g.parse (Description.atOnce d d')) before = .ok atOnce ∧
      (∀ container entries record ledger, (∀ z ∈ entries, z.isSteady) →
        let v := Value.items container entries
        (outcome (inTurn.apply v record) ledger = .ok none ↔
          outcome (atOnce.apply v record) ledger = .ok none) ∧
        ((∀ z ∈ entries,
            outcome (s.apply z (.dict [(.str g.entryField, z)])) ledger = .ok none) →
          outcome (inTurn.apply v record) ledger = outcome (atOnce.apply v record) ledger)) ∧
      ∀ v, v.isAbsent → ∀ record ledger, outcome (inTurn.apply v record) ledger = .ok none ∧
        outcome (atOnce.apply v record) ledger = .ok none := by
  have upholds := sourceless.upholds
  rw [parse_inTurn named, parse_atOnce named]
  cases first : outcome (g.parse d) before with
  | error e => exact .inl ⟨e, by rw [outcome_bind, first], by rw [outcome_bind, first]⟩
  | ok s =>
    cases second : outcome (g.parse d') (after (g.parse d) before) with
    | error e =>
      refine .inl ⟨e, ?_, ?_⟩ <;>
        · rw [outcome_bind, first]
          dsimp only
          rw [outcome_bind, second]
    | ok t =>
      have plain := ((parse_upholds upholds trivial).of_ok first).2
      have plain' := ((parse_upholds upholds trivial).of_ok second).2
      refine .inr ⟨s, _, _, rfl, outcome_bind_ok.2 ⟨s, first, outcome_bind_ok.2 ⟨t, second, rfl⟩⟩,
        outcome_bind_ok.2 ⟨s, first, outcome_bind_ok.2 ⟨t, second, rfl⟩⟩,
        fun container entries record ledger steady => ?_, fun v absent record ledger => ?_⟩
      · obtain ⟨passes, same⟩ := RuleSet.apply_lists_fuse (g := g) (parse_override first)
          (parse_override second) plain plain' steady container record ledger
        refine ⟨passes, fun each => same ?_⟩
        have own := RuleSet.forEntries_source? g plain
        refine (Rule.apply_list_passes_iff rfl own steady container record ledger).2
          fun z member => ?_
        rw [(Rule.entryReport_still own (steady z member)).outcome_eq {} ledger]
        exact (Rule.passes_iff rfl z ledger).1 (each z member)
      · have passes (sets : List RuleSet) := congrArg (outcome · ledger)
          (RuleSet.apply_lists_absent g sets absent record)
        exact ⟨passes [s, t], passes [s.merge t]⟩

/-- A list of whole numbers that are not all positive. -/
theorem lists_fuse_integers :
    let g : Registry := {}
    let positive := Value.str "positive_integer"
    let v := Value.list [.int 1, .int (-2)]
    g.IsSourceless ∧ g.find? Builtin.listOf.name = some (.builtin .listOf) ∧
    ∃ inTurn atOnce report,
      outcome (g.parse (Description.inTurn (.str "integer") positive)) {} = .ok inTurn ∧
      outcome (g.parse (Description.atOnce (.str "integer") positive)) {} = .ok atOnce ∧
      outcome (atOnce.apply v .null) {} = .ok (some report) ∧
      outcome (inTurn.apply v .null) {} = .ok (some report) := by
  intro g positive v
  have sourceless : g.IsSourceless := fun name make found =>
    ((IsStandard.builtins (D := fun _ => True) "entry" true).find? found).elim
  have named : g.find? Builtin.listOf.name = some (.builtin .listOf) := rfl
  let first := RuleSet.mk [.comparison { operator := .integer }] .null
  let second := RuleSet.mk [.comparison { operator := .positiveInteger }] .null
  have read : g.parse (.str "integer") = pure first :=
    parseWithin_name (b := .integer) rfl rfl rfl
  have read' : g.parse positive = pure second :=
    parseWithin_name (b := .positiveInteger) rfl rfl rfl
  have turn : outcome (g.parse (Description.inTurn (.str "integer") positive)) {} =
      .ok (.mk [first.forEntries g, second.forEntries g] .null) := by
    rw [parse_inTurn named, read, read']
    rfl
  have once : outcome (g.parse (Description.atOnce (.str "integer") positive)) {} =
      .ok (.mk [(first.merge second).forEntries g] .null) := by
    rw [parse_atOnce named, read, read']
    rfl
  rcases lists_fuse sourceless named (.str "integer") positive {} with
    ⟨e, failed, -⟩ | ⟨s, p, q, own, one, other, lists, -⟩
  · cases turn.symm.trans failed
  · cases turn.symm.trans one
    cases once.symm.trans other
    obtain rfl : first = s := by simpa [read] using own
    have steady : ∀ z ∈ [Value.int 1, .int (-2)], z.isSteady := by decide
    have passed : ∀ z ∈ [Value.int 1, .int (-2)],
        outcome (first.apply z (.dict [(.str g.entryField, z)])) {} = .ok none := by
      simp only [List.forall_mem_cons, List.not_mem_nil, false_imp_iff, implies_true, and_true]
      exact ⟨by cbv, by cbv⟩
    have same := (lists .list _ .null {} steady).2 passed
    have failed : outcome ((RuleSet.mk [(first.merge second).forEntries g] .null).apply v .null)
        {} = .ok (some (.slots [none, some (.code (.str Code.notPositiveInteger))])) := by cbv
    exact ⟨sourceless, named, _, _, _, turn, once, failed, same.trans failed⟩

end Registry

end RecordCheck
