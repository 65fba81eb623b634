import RecordCheck.Proofs.Footprint

/-!
# What a set reports

A set asks its rules about a value one after the other. As long as no stream is there to run out,
each of them answers as it does alone, so that the set passes a value when all rules that see it do,
and reports what the first of the others has to report.

## Main definitions

* `Report.IsFilled`: reports that count as true.
* `Rule.sees`: whether a set asks a rule about a value.
* `AreApart`: rules that take from different streams.

## Main statements

* `Rule.apply_filled`: no rule reports anything that counts as false.
* `firstReport_cons_of_passed`: a rule that passes makes no difference to those behind it.
* `RuleSet.apply_evaluates`: when a set passes, and what it reports otherwise.
-/
set_option autoImplicit false

namespace RecordCheck

open Act

/-! ## Reports count as true -/

/-- Something stands in a report. -/
def Report.IsFilled : Report → Prop
  | .code _ => False
  | .slots entries => entries ≠ []
  | .fields entries => entries ≠ []

theorem Report.IsFilled.isTrue {r : Report} (filled : r.IsFilled) : r.toValue.isTrue := by
  cases r with
  | code v => exact filled.elim
  | slots entries =>
    rcases entries with _ | ⟨_ | r, rest⟩
    · exact absurd rfl filled
    all_goals simp [toValue, slotValues, Value.isTrue, Value.size?]
  | fields entries =>
    rcases entries with _ | ⟨⟨field, r⟩, rest⟩
    · exact absurd rfl filled
    · simp [toValue, fieldValues, Value.isTrue, Value.size?]

theorem Report.isFilled_ofCode (code : Value) : (Report.ofCode code).IsFilled := by
  simp [ofCode, IsFilled]

theorem isFilled_reportOf (code : Option String) : ∀ r ∈ reportOf code, r.IsFilled := by
  cases code with
  | none => simp [reportOf]
  | some s => simpa [reportOf] using Report.isFilled_ofCode (.str s)

theorem Report.isFilled_ofSlots (slots : List (Option Report)) :
    ∀ r ∈ ofSlots slots, r.IsFilled := by
  cases slots <;> simp [ofSlots, IsFilled]

theorem Report.isFilled_ofFields (parts : List (Value × Report)) :
    ∀ r ∈ ofFields parts, r.IsFilled := by
  cases parts <;> simp [ofFields, IsFilled]

theorem isFilled_overridden (override : Value) {report : Report} (filled : report.IsFilled) :
    (overridden override report).IsFilled := by
  unfold overridden
  split
  · exact filled
  · exact Report.isFilled_ofCode _

/-- An override stands alone in what is reported. -/
theorem toValue_overridden {override : Value} (given : override ≠ .null) (report : Report) :
    (overridden override report).toValue = .list [override] := by
  cases override with
  | null => exact absurd rfl given
  | _ => rfl

mutual

/-- No rule reports anything that counts as false. -/
theorem Rule.apply_filled : (rule : Rule) → (v record : Value) →
    Yields (rule.apply v record) fun found => ∀ r ∈ found, r.IsFilled
  | .blank _, _, _ | .comparison _, _, _ | .length _, _, _ | .shape _, _, _ =>
    (yields_any _).bind fun _ _ => .pure (isFilled_reportOf _)
  | .pattern m, _, _ => by
    refine (yields_any _).bind fun code _ => .pure ?_
    cases code with
    | none => simp
    | some code => simpa using Report.isFilled_ofCode code
  | .timezone _, _, _ => .pure (isFilled_reportOf _)
  | .draft _, _, _ => .throw trivial
  | .object _ _ validator, v, _ => by
    rw [Rule.apply]
    split
    · exact .map ((yields_any _).mono (fun _ _ => Report.isFilled_ofFields _) fun _ h => h)
    · exact .pure (isFilled_reportOf _)
  | .listOf .., _, _ => by
    rw [Rule.apply_listOf]
    exact Value.eachEntry_ensures (isFilled_reportOf _) (fun _ _ => yields_any _)
      fun _ slots _ => Report.isFilled_ofSlots slots
  | .objects .., _, _ => by
    rw [Rule.apply_objects]
    exact Value.eachEntry_ensures (isFilled_reportOf _) (fun _ _ => yields_any _)
      fun _ slots _ => Report.isFilled_ofSlots slots
  | .all _ s, v, record => RuleSet.apply_filled s v record

theorem RuleSet.apply_filled : (s : RuleSet) → (v record : Value) →
    Yields (s.apply v record) fun found => ∀ r ∈ found, r.IsFilled
  | .mk rules override, v, record => by
    refine (firstReport_filled rules v record).bind fun found filled => .pure fun r same => ?_
    obtain ⟨report, reported, rfl⟩ := Option.map_eq_some_iff.1 same
    exact isFilled_overridden override (filled report reported)

theorem firstReport_filled : (rules : List Rule) → (v record : Value) →
    Yields (firstReport rules v record) fun found => ∀ r ∈ found, r.IsFilled
  | [], _, _ => .pure (by simp)
  | rule :: rules, v, record => by
    rw [firstReport]
    split
    · exact firstReport_filled rules v record
    · refine (Rule.apply_filled rule v record).bind fun found filled => ?_
      cases found with
      | some report => exact .pure filled
      | none => exact firstReport_filled rules v record

end

/-! ## Rules that do not get in each other's way -/

/-- Whether a set asks a rule about a value: absent values are shown to some rules only. -/
def Rule.sees (rule : Rule) (v : Value) : Bool := !(v.isAbsent && !rule.seesAbsent)

/-- A comparison or a length in a rule takes from a stream. -/
def Rule.TakesFrom (rule : Rule) (serial : Nat) : Prop :=
  ∃ x ∈ rule.pieces, x.source? = some serial

/-- No two rules take from one stream. -/
def AreApart (rules : List Rule) : Prop :=
  rules.Pairwise fun r s => ∀ serial, r.TakesFrom serial → ¬ s.TakesFrom serial

theorem AreApart.perm {rules others : List Rule} (h : AreApart rules) (same : rules.Perm others) :
    AreApart others :=
  (same.pairwise_iff fun {_ _} apart serial takes other => apart serial other takes).1 h

theorem Value.streamsIn_of_isSteady {v : Value} (steady : v.isSteady) (S : Nat → Prop) :
    v.StreamsIn S := by
  intro serial entries reached
  have := reached.isSteady steady
  simp [Value.isSteady] at this

section Alone

variable {v record : Value} {ledger : Ledger} {rule : Rule} {rules : List Rule}

/-- Rules that do not see a value are passed over. -/
theorem firstReport_cons_of_unseen (unseen : rule.sees v = false) :
    firstReport (rule :: rules) v record = firstReport rules v record := by
  rw [firstReport, if_pos (by grind [Rule.sees])]

theorem firstReport_cons_of_seen (seen : rule.sees v) :
    outcome (firstReport (rule :: rules) v record) ledger =
      match outcome (rule.apply v record) ledger with
      | .ok (some report) => .ok (some report)
      | .ok none => outcome (firstReport rules v record) (after (rule.apply v record) ledger)
      | .error e => .error e := by
  rw [firstReport, if_neg (by grind [Rule.sees]), outcome_bind]
  rcases outcome (rule.apply v record) ledger with e | _ | report <;> rfl

/-- A rule that passes a value without streams makes no difference to the rules behind it, as long
as none of them takes from a stream of its own. -/
theorem firstReport_cons_of_passed (steady : v.isSteady)
    (apart : ∀ s ∈ rules, ∀ serial, rule.TakesFrom serial → ¬ s.TakesFrom serial)
    (passed : rule.sees v → outcome (rule.apply v record) ledger = .ok none) :
    outcome (firstReport (rule :: rules) v record) ledger =
      outcome (firstReport rules v record) ledger := by
  have streams := Value.streamsIn_of_isSteady steady
  cases seen : rule.sees v with
  | false => rw [firstReport_cons_of_unseen seen]
  | true =>
    rw [firstReport_cons_of_seen seen, passed seen]
    have first : Within rule.TakesFrom (rule.apply v record) :=
      rule.apply_within (fun x hx serial takes => ⟨x, hx, takes⟩) v record (streams _)
    have rest : Within (fun serial => ∃ s ∈ rules, s.TakesFrom serial)
        (firstReport rules v record) := by
      refine firstReport_within rules (fun x hx serial takes => ?_) v record (streams _)
      obtain ⟨s, member, hx⟩ := mem_rulePieces.1 hx
      exact ⟨s, member, x, hx, takes⟩
    refine rest.same fun serial taken => first.frame ledger serial fun own => ?_
    obtain ⟨s, member, takes⟩ := taken
    exact apart s member serial own takes

/-- Nothing is reported when each rule that sees the value passes it alone. -/
theorem firstReport_passes_iff (steady : v.isSteady) (apart : AreApart rules) :
    outcome (firstReport rules v record) ledger = .ok none ↔
      ∀ rule ∈ rules, rule.sees v → outcome (rule.apply v record) ledger = .ok none := by
  induction rules with
  | nil => simp [firstReport]
  | cons rule rules ih =>
    obtain ⟨first, others⟩ := List.pairwise_cons.1 apart
    rw [List.forall_mem_cons, ← ih others]
    constructor
    · intro passes
      have passed : rule.sees v → outcome (rule.apply v record) ledger = .ok none := by
        intro seen
        rw [firstReport_cons_of_seen seen] at passes
        rcases alone : outcome (rule.apply v record) ledger with e | _ | report <;>
          simp [alone] at passes ⊢
      exact ⟨passed, by rwa [firstReport_cons_of_passed steady first passed] at passes⟩
    · rintro ⟨passed, rest⟩
      rwa [firstReport_cons_of_passed steady first passed]

/-- When something is reported, it is what the first rule that does not pass reports alone. -/
theorem firstReport_fails (steady : v.isSteady) (apart : AreApart rules)
    (answers : ∀ rule ∈ rules, rule.sees v →
      ∃ found, outcome (rule.apply v record) ledger = .ok found)
    (failed : outcome (firstReport rules v record) ledger ≠ .ok none) :
    ∃ (before : List Rule) (rule : Rule) (behind : List Rule) (report : Report),
      rules = before ++ rule :: behind ∧
      (∀ r ∈ before, r.sees v → outcome (r.apply v record) ledger = .ok none) ∧ rule.sees v ∧
      outcome (rule.apply v record) ledger = .ok (some report) ∧
      outcome (firstReport rules v record) ledger = .ok (some report) := by
  induction rules with
  | nil => simp [firstReport] at failed
  | cons rule rules ih =>
    obtain ⟨first, others⟩ := List.pairwise_cons.1 apart
    obtain ⟨answer, more⟩ := List.forall_mem_cons.1 answers
    by_cases passed : rule.sees v → outcome (rule.apply v record) ledger = .ok none
    · rw [firstReport_cons_of_passed steady first passed] at failed ⊢
      obtain ⟨before, r, behind, report, rfl, rest⟩ := ih others more failed
      refine ⟨rule :: before, r, behind, report, rfl, ?_, rest.2⟩
      exact List.forall_mem_cons.2 ⟨passed, rest.1⟩
    · obtain ⟨seen, reports⟩ := Classical.not_imp.1 passed
      obtain ⟨_ | report, alone⟩ := answer seen
      · exact absurd alone reports
      · refine ⟨[], rule, rules, report, rfl, by simp, seen, alone, ?_⟩
        rw [firstReport_cons_of_seen seen, alone]

/-- Rules that pass make no difference to those behind them. -/
theorem firstReport_append_of_passed {behind : List Rule} (steady : v.isSteady)
    (apart : AreApart (rules ++ behind))
    (passed : outcome (firstReport rules v record) ledger = .ok none) :
    outcome (firstReport (rules ++ behind) v record) ledger =
      outcome (firstReport behind v record) ledger := by
  have each := (firstReport_passes_iff steady (List.pairwise_append.1 apart).1).1 passed
  clear passed
  induction rules with
  | nil => rfl
  | cons rule rules ih =>
    rw [List.cons_append] at apart ⊢
    obtain ⟨first, others⟩ := List.pairwise_cons.1 apart
    obtain ⟨passed, each⟩ := List.forall_mem_cons.1 each
    rw [firstReport_cons_of_passed steady first passed]
    exact ih others each

/-- Rules that are added behind others are not asked when these have something to report. -/
theorem firstReport_append_of_stopped (behind : List Rule)
    (stopped : outcome (firstReport rules v record) ledger ≠ .ok none) :
    outcome (firstReport (rules ++ behind) v record) ledger =
      outcome (firstReport rules v record) ledger := by
  rw [firstReport_append, outcome_bind]
  rcases first : outcome (firstReport rules v record) ledger with e | _ | report
  · rfl
  · exact absurd first stopped
  · rfl

end Alone

/-! ## What is read -/

theorem Comparison.IsFit.source?_eq_none {c : Comparison} (fit : c.IsFit) : c.source? = none := by
  unfold source?
  split
  · next operator operand => exact absurd operand (fit.operand_ne_stream (.inl operator) _ _)
  · next operator operand => exact absurd operand (fit.operand_ne_stream (.inr operator) _ _)
  · rfl

theorem Length.IsFit.source?_eq_none {l : Length} (fit : l.IsFit) : l.source? = none := by
  unfold source?
  split
  · next operator bounds => exact absurd bounds (fit.bounds_ne_stream operator _ _)
  · rfl

/-- What built-in rules make takes from no stream. -/
theorem Builtin.make_source? (b : Builtin) (args : List Value) :
    Yields (b.make args) (Made (fun _ => True) fun x => x.source? = none) := by
  refine (Builtin.make_makes b args).mono (fun rule made => ?_) fun _ h => h
  cases made with
  | comparison fit => exact List.forall_mem_singleton.2 fit.source?_eq_none
  | length fit => exact List.forall_mem_singleton.2 fit.source?_eq_none
  | draft => trivial
  | blank | shape | format | like | timezone => exact List.forall_mem_singleton.2 rfl

/-- Ways of making rules that a program has added give no rule a stream to take from. -/
def Registry.IsSourceless (g : Registry) : Prop :=
  ∀ name make, g.find? name = some (.custom make) → ∀ args,
    Yields (make args) fun made =>
      ∀ rule ∈ made, Made (fun _ => True) (fun x => x.source? = none) rule

theorem Registry.IsSourceless.upholds {g : Registry} (sourceless : g.IsSourceless) :
    g.Upholds (fun _ => True) fun x => x.source? = none where
  hereditary := ⟨trivial, fun _ _ _ => trivial, fun _ _ _ => trivial⟩
  builtin b args _ := b.make_source? args
  custom name make found args _ := sourceless name make found args
  standsFor _ _ _ _ := ⟨trivial, fun _ => rfl⟩
  composed rule composed := by cases rule <;> simp_all [Rule.IsComposed, Piece.source?]
  set _ := rfl
  fields _ _ _ _ := rfl
  switch _ _ _ _ := rfl

/-- The rules that are read from a description take from no stream. -/
theorem Registry.parse_source? {g : Registry}
    (standard : ∀ name make, g.find? name ≠ some (.custom make)) (d : Value) :
    Yields (g.parse d) fun s => ∀ x ∈ s.pieces, x.source? = none := by
  have sourceless : g.IsSourceless := fun name make found => absurd found (standard name make)
  exact (Registry.parse_upholds sourceless.upholds trivial).mono (fun _ laid => laid.2) fun _ h => h

theorem AreApart.of_source?_eq_none {rules : List Rule}
    (none : ∀ x ∈ rulePieces rules, x.source? = none) : AreApart rules := by
  refine List.Pairwise.imp_of_mem (R := fun _ _ => True) (fun {r s} member _ _ serial takes => ?_)
    (List.pairwise_of_forall fun _ _ => trivial)
  obtain ⟨x, hx, taken⟩ := takes
  rw [none x (mem_rulePieces.2 ⟨r, member, hx⟩)] at taken
  cases taken

namespace RuleSet

variable {v record : Value} {ledger : Ledger} {rules : List Rule}

theorem outcome_apply (override : Value) :
    outcome ((RuleSet.mk rules override).apply v record) ledger =
      (outcome (firstReport rules v record) ledger).map (Option.map (overridden override)) := by
  rw [RuleSet.apply, bind_pure_comp, outcome_map]

theorem apply_passes_iff (override : Value) :
    outcome ((RuleSet.mk rules override).apply v record) ledger = .ok none ↔
      outcome (firstReport rules v record) ledger = .ok none := by
  rw [outcome_apply]
  rcases outcome (firstReport rules v record) ledger with e | _ | report <;> simp [Except.map]

theorem apply_append_of_stopped (override : Value) (behind : List Rule)
    (stopped : outcome ((RuleSet.mk rules override).apply v record) ledger ≠ .ok none) :
    outcome ((RuleSet.mk (rules ++ behind) override).apply v record) ledger =
      outcome ((RuleSet.mk rules override).apply v record) ledger := by
  have first := mt (apply_passes_iff override).2 stopped
  rw [outcome_apply, outcome_apply, firstReport_append_of_stopped behind first]

/-- What does not pass is reported as the first of the rules reports it that does not pass it, or
with the override of the set. -/
theorem apply_fails (override : Value) (steady : v.isSteady) (apart : AreApart rules)
    (answers : ∀ rule ∈ rules, rule.sees v →
      ∃ found, outcome (rule.apply v record) ledger = .ok found)
    (failed : outcome ((RuleSet.mk rules override).apply v record) ledger ≠ .ok none) :
    ∃ (before : List Rule) (rule : Rule) (behind : List Rule) (report : Report),
      rules = before ++ rule :: behind ∧
      (∀ r ∈ before, r.sees v → outcome (r.apply v record) ledger = .ok none) ∧ rule.sees v ∧
      outcome (rule.apply v record) ledger = .ok (some report) ∧ report.toValue.isTrue ∧
      outcome ((RuleSet.mk rules override).apply v record) ledger =
        .ok (some (overridden override report)) := by
  obtain ⟨before, rule, behind, report, split, passed, seen, own, first⟩ :=
    firstReport_fails steady apart answers (mt (apply_passes_iff override).2 failed)
  have filled := (rule.apply_filled v record).of_ok own report rfl
  refine ⟨before, rule, behind, report, split, passed, seen, own, filled.isTrue, ?_⟩
  rw [outcome_apply, first]
  rfl

/-- Where the first of two sets passes a value without streams, their rules together report what the
second reports. -/
theorem apply_merge {behind : List Rule} (steady : v.isSteady)
    (apart : AreApart (rules ++ behind)) :
    outcome (((RuleSet.mk rules .null).merge (.mk behind .null)).apply v record) ledger =
      match outcome ((RuleSet.mk rules .null).apply v record) ledger with
      | .ok none => outcome ((RuleSet.mk behind .null).apply v record) ledger
      | reported => reported := by
  change outcome ((RuleSet.mk (rules ++ behind) .null).apply v record) ledger = _
  by_cases passed : outcome ((RuleSet.mk rules .null).apply v record) ledger = .ok none
  · rw [passed, apply_null, apply_null]
    exact firstReport_append_of_passed steady apart ((apply_passes_iff .null).1 passed)
  · rw [apply_append_of_stopped .null behind passed]
    split
    · contradiction
    · rfl

/-- Applied to a value without streams, rules that take from different streams answer as they do
alone: the set passes the value when each rule does that sees it, and otherwise it reports its
override, or else what the first of the others reports, which counts as true. So the order of the
rules makes no difference to what passes, rules that are added behind make none to what is reported,
and a merged set reports as the second of its parts does where the first passes. Rules that are
read from descriptions take from no streams, whichever sets of built-in rules and aliases they come
from. -/
theorem apply_evaluates :
    (∀ rules : List Rule, (∀ rule ∈ rules, ∃ (g : Registry) (d : Value) (ledger : Ledger)
      (s : RuleSet), (∀ name make, g.find? name ≠ some (.custom make)) ∧
        outcome (g.parse d) ledger = .ok s ∧ rule ∈ s.rules) → AreApart rules) ∧
    ∀ (rules : List Rule) (v record : Value) (ledger : Ledger), AreApart rules → v.isSteady →
      (∀ rule ∈ rules, rule.sees v → ∃ found, outcome (rule.apply v record) ledger = .ok found) →
      let alone (rule : Rule) := outcome (rule.apply v record) ledger
      let whole (s : RuleSet) := outcome (s.apply v record) ledger
      (∀ override,
        (whole (.mk rules override) = .ok none ↔
          ∀ rule ∈ rules, rule.sees v → alone rule = .ok none) ∧
        (whole (.mk rules override) ≠ .ok none → ∃ before rule behind report reported,
          rules = before ++ rule :: behind ∧ (∀ r ∈ before, r.sees v → alone r = .ok none) ∧
          rule.sees v ∧ alone rule = .ok (some report) ∧ report.toValue.isTrue ∧
          whole (.mk rules override) = .ok (some reported) ∧
          (override = .null → reported = report) ∧
          (override ≠ .null → reported.toValue = .list [override])) ∧
        (∀ others, rules.Perm others →
          (whole (.mk others override) = .ok none ↔ whole (.mk rules override) = .ok none)) ∧
        ∀ behind report, whole (.mk rules override) = .ok (some report) →
          whole (.mk (rules ++ behind) override) = .ok (some report)) ∧
      ∀ behind, AreApart (rules ++ behind) →
        whole ((RuleSet.mk rules .null).merge (.mk behind .null)) =
          match whole (.mk rules .null) with
          | .ok none => whole (.mk behind .null)
          | reported => reported := by
  refine ⟨fun rules read => .of_source?_eq_none fun x hx => ?_,
    fun rules v record ledger apart steady answers => ?_⟩
  · obtain ⟨rule, member, hx⟩ := mem_rulePieces.1 hx
    obtain ⟨g, d, ledger, s, standard, read, own⟩ := read rule member
    have plain := (Registry.parse_source? standard d).of_ok read
    exact plain x (RuleSet.mem_pieces.2 (.inr ⟨rule, own, hx⟩))
  intro alone whole
  have passes {rules : List Rule} (apart : AreApart rules) (override : Value) :
      whole (.mk rules override) = .ok none ↔ ∀ rule ∈ rules, rule.sees v → alone rule = .ok none :=
    (apply_passes_iff override).trans (firstReport_passes_iff steady apart)
  refine ⟨fun override => ⟨passes apart override, fun failed => ?_, fun others same => ?_,
    fun behind report reported => ?_⟩, fun behind apart => apply_merge steady apart⟩
  · obtain ⟨before, rule, behind, report, split, passed, seen, own, isTrue, reported⟩ :=
      apply_fails override steady apart answers failed
    refine ⟨before, rule, behind, report, overridden override report, split, passed, seen, own,
      isTrue, reported, ?_, fun given => toValue_overridden given report⟩
    rintro rfl
    rfl
  · rw [passes apart override, passes (apart.perm same) override]
    exact forall_congr' fun rule => imp_congr_left same.mem_iff.symm
  · have stopped : whole (.mk rules override) ≠ .ok none := by simp [reported]
    exact (apply_append_of_stopped override behind stopped).trans reported

/-- Text that is no whole number, given to an alias with a code of its own before the rule that the
alias stands for. -/
theorem apply_evaluates_integer :
    let g := (({} : Registry).registerAlias (.str "whole") (.str "integer") (.str "BAD")).registry
    let d := Value.list [.str "required", .str "whole", .str "integer", .str "not_empty"]
    let integer := Rule.comparison { operator := .integer }
    let rules := [.blank .required, .all 0 (.mk [integer] (.str "BAD")), integer]
    let v := Value.str "x"
    let bad := Report.ofCode (.str "BAD")
    outcome (g.parse d) {} = .ok (.mk (rules ++ [.blank .notEmpty]) .null) ∧
    AreApart (rules ++ [.blank .notEmpty]) ∧ v.isSteady ∧
    (∀ rule ∈ rules, rule.sees v → ∃ found, outcome (rule.apply v .null) {} = .ok found) ∧
    outcome ((RuleSet.mk rules .null).apply v .null) {} = .ok (some bad) ∧
    outcome ((RuleSet.mk (rules ++ [.blank .notEmpty]) .null).apply v .null) {} = .ok (some bad) ∧
    outcome ((RuleSet.mk rules.reverse .null).apply v .null) {} ≠ .ok none ∧
    outcome (((RuleSet.mk rules .null).merge (.mk [.blank .notEmpty] .null)).apply v .null) {} =
      .ok (some bad) := by
  intro g d integer rules v bad
  obtain ⟨read, evaluates⟩ := apply_evaluates
  have parsed : outcome (g.parse d) {} = .ok (.mk (rules ++ [.blank .notEmpty]) .null) := by
    have calls : Description.calls d = [.ok ⟨"required", .null⟩, .ok ⟨"whole", .null⟩,
        .ok ⟨"integer", .null⟩, .ok ⟨"not_empty", .null⟩] := rfl
    have required : Registry.ruleWithin g [] (g.deeper []) ⟨"required", .null⟩ =
        pure (.blank .required) := Registry.ruleWithin_finished (b := .required) rfl rfl rfl
    have whole : Registry.ruleWithin g [] (g.deeper []) ⟨"whole", .null⟩ =
        pure (.all 0 (.mk [integer] (.str "BAD"))) := by
      have known : g.find? (Call.mk "whole" .null).name =
          some (.standsFor (.str "integer") (.str "BAD")) := Registry.find?_registerAlias rfl
      rw [Registry.ruleWithin_eq, Registry.makeWithin_standsFor known rfl List.not_mem_nil,
        Registry.parseWithin_name (b := .integer) rfl rfl rfl]
      rfl
    have alone : Registry.ruleWithin g [] (g.deeper []) ⟨"integer", .null⟩ = pure integer :=
      Registry.ruleWithin_finished (b := .integer) rfl rfl rfl
    have notEmpty : Registry.ruleWithin g [] (g.deeper []) ⟨"not_empty", .null⟩ =
        pure (.blank .notEmpty) := Registry.ruleWithin_finished (b := .notEmpty) rfl rfl rfl
    rw [Registry.parse, Registry.parseWithin_eq, calls]
    simp [Registry.callWithin, required, whole, alone, notEmpty, rules]
  have standard : g.IsStandard fun _ => True :=
    (Registry.IsStandard.builtins "entry" true).registerAlias (.str "whole") trivial
      (.inr rfl)
  have longer : AreApart (rules ++ [.blank .notEmpty]) :=
    read _ fun rule member =>
      ⟨g, d, {}, _, fun _ _ found => (standard.find? found).elim, parsed, member⟩
  have apart : AreApart rules := (List.pairwise_append.1 longer).1
  have required : outcome ((Rule.blank .required).apply v .null) {} = .ok none := rfl
  have inner : outcome ((Rule.all 0 (.mk [integer] (.str "BAD"))).apply v .null) {} =
      .ok (some bad) := by cbv
  have last : outcome (integer.apply v .null) {} =
      .ok (some (.ofCode (.str Code.notInteger))) := by cbv
  have answers : ∀ rule ∈ rules, rule.sees v →
      ∃ found, outcome (rule.apply v .null) {} = .ok found := by
    simp [rules, required, inner, last]
  obtain ⟨sets, merged⟩ := evaluates rules v .null {} apart rfl answers
  obtain ⟨-, -, others, more⟩ := sets .null
  have whole : outcome ((RuleSet.mk rules .null).apply v .null) {} = .ok (some bad) := by cbv
  refine ⟨parsed, longer, rfl, answers, whole, more _ _ whole, ?_, ?_⟩
  · intro passed
    have backwards := (others _ (List.reverse_perm rules).symm).1 passed
    simp [whole] at backwards
  · have both := merged _ longer
    dsimp only at both
    rwa [whole] at both

end RuleSet

end RecordCheck
