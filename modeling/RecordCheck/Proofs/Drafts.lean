import RecordCheck.Proofs.Failing

/-!
# Drafts that are left

Reading finishes the drafts that names make. What else a program's own way of making rules gives is
taken as it is, with the drafts inside it. No other draft is left in a set that was read.

## Main definitions

* `Registry.Hides`: a draft inside a rule that a program makes.

## Main statements

* `Registry.parse_custom`: what a program makes is taken as it is, unless it is a draft.
* `Registry.parse_draft_iff`: drafts in what is read are those inside rules that a program makes,
  and without them rules never fail like drafts.
-/
set_option autoImplicit false

namespace RecordCheck

open Act

namespace Registry

/-- A way of making rules that a program has registered can make a rule that is no draft and has the
draft inside. -/
def Hides (g : Registry) (d : Draft) : Prop :=
  ∃ name make args ledger rule, g.find? name = some (.custom make) ∧
    outcome (make args) ledger = .ok (some rule) ∧ rule.isDraft = false ∧
    .rule (.draft d) ∈ rule.pieces

end Registry

/-- A piece that is no draft, unless it is one that a registry hides. -/
def Piece.IsFinished (g : Registry) (x : Piece) : Prop := ∀ d, x = .rule (.draft d) → g.Hides d

namespace Registry

variable {g : Registry}

/-- What is read has no drafts but those that the registry hides. -/
theorem upholds_isFinished (g : Registry) : g.Upholds (fun _ => True) (Piece.IsFinished g) where
  hereditary := ⟨trivial, fun _ _ _ => trivial, fun _ _ _ => trivial⟩
  builtin b args _ := by
    refine (Builtin.make_makes b args).mono (fun rule made => ?_) fun _ h => h
    cases made with
    | draft _ => trivial
    | _ => exact List.forall_mem_singleton.2 nofun
  custom name make found args _ := by
    refine .intro (fun ledger made ok rule member => ?_) fun _ _ _ => trivial
    obtain rfl : made = some rule := member
    have whole (final : rule.isDraft = false) : ∀ x ∈ rule.pieces, x.IsFinished g :=
      fun x inside d same => ⟨name, make, args, ledger, rule, found, ok, final, same ▸ inside⟩
    -- Only a rule that is a draft itself is finished.
    cases rule with
    | draft d => trivial
    | _ => exact whole rfl
  standsFor _ _ _ _ := ⟨trivial, fun _ => nofun⟩
  composed rule composed := by
    rintro d ⟨⟩
    exact composed.elim
  set _ := nofun
  fields _ _ _ _ := nofun
  switch _ _ _ _ := nofun

/-- What a program's own way of making rules gives is taken as it is, unless it is a draft. -/
theorem parse_custom {description : Value} {call : Call} {make : List Value → Act (Option Rule)}
    {ledger : Ledger} {rule : Rule} (single : Description.calls description = [.ok call])
    (found : g.find? call.name = some (.custom make))
    (made : outcome (make call.arguments) ledger = .ok (some rule))
    (finished : rule.isDraft = false) :
    outcome (g.parse description) ledger = .ok (.mk [rule] .null) := by
  have whole : outcome (g.ruleWithin [] (g.deeper []) call) ledger = .ok rule := by
    rw [ruleWithin_eq, makeWithin_custom found, outcome_bind_ok]
    refine ⟨rule, ?_, by rw [completeWithin_finished _ finished]; rfl⟩
    exact outcome_bind_ok.2 ⟨some rule, made, rfl⟩
  rw [parse, parseWithin_eq, single]
  simp [callWithin, outcome_map, whole, Except.map]

/-- The drafts in what is read are those inside rules that a program makes. Where there are none,
nothing that is read fails like a draft. -/
theorem parse_draft_iff (g : Registry) :
    (∀ d, (∃ description ledger s, outcome (g.parse description) ledger = .ok s ∧
      .rule (.draft d) ∈ s.pieces) ↔ g.Hides d) ∧
    ((∀ d, ¬ g.Hides d) → ∀ description ledger s, outcome (g.parse description) ledger = .ok s →
      ∀ v record later e, outcome (s.apply v record) later = .error e → e.kind ≠ .rule .draft) := by
  have found {description : Value} {ledger : Ledger} {s : RuleSet} {d : Draft}
      (read : outcome (g.parse description) ledger = .ok s) (inside : .rule (.draft d) ∈ s.pieces) :
      g.Hides d :=
    ((parse_upholds (upholds_isFinished g) trivial).of_ok read).2 _ inside d rfl
  refine ⟨fun d => ⟨fun ⟨_, _, _, read, inside⟩ => found read inside, ?_⟩, ?_⟩
  · rintro ⟨name, make, args, ledger, rule, registered, made, final, inside⟩
    refine ⟨_, ledger, _,
      parse_custom (Description.calls_single name (.list args)) registered made final, ?_⟩
    exact RuleSet.mem_pieces.2 (.inr ⟨rule, List.mem_singleton_self _, inside⟩)
  · intro none description ledger s read v record later e failed draft
    obtain ⟨d, inside⟩ := ((s.apply_failsBy v record).of_error failed).exists_draft draft
    exact none d (found read inside)

/-- A program makes a draft, which is finished at once. -/
theorem parse_draft_iff_of_list :
    let make := fun _ : List Value => (pure (some (.draft ⟨.list, .str "integer", .null, .null⟩)) :
      Act (Option Rule))
    let g := (({} : Registry).register [("numbers", some (.custom make))]).registry
    let s := RuleSet.mk [.listOf .null 0 "entry"
      (.mk [.comparison { operator := .integer }] .null)] .null
    (∀ d, ¬ g.Hides d) ∧ outcome (g.parse (.str "numbers")) {} = .ok s ∧
      ∀ v record later e, outcome (s.apply v record) later = .error e → e.kind ≠ .rule .draft := by
  intro make g s
  have none (d : Draft) : ¬ g.Hides d := by
    rintro ⟨name, other, args, ledger, rule, registered, made, final, -⟩
    rcases mem_put (Keyed.mem_of_lookup (registered : g.definitions.lookup name = _)) with old | new
    · obtain ⟨b, -, same⟩ := List.mem_map.1 old
      cases same
    · cases new
      cases made
      cases final
  have numbers : g.find? (Call.mk "numbers" .null).name = some (.custom make) := rfl
  have integer : g.find? (Call.mk "integer" .null).name = some (.builtin .integer) := rfl
  have read : outcome (g.parse (.str "numbers")) {} = .ok s := by
    rw [parse, parseWithin_eq]
    simp [callWithin, ruleWithin_eq, makeWithin_custom numbers, make, completeWithin, Value.weight,
      finishOwn_fresh _ (Option.isSome_of_eq_some numbers) List.not_mem_nil, finishWithin,
      parseWithin_eq, makeWithin_builtin integer, Call.arguments, Builtin.make]
    rfl
  exact ⟨none, read, (parse_draft_iff g).2 none _ _ s read⟩

/-- A program makes a set with a draft inside, which is left there: the set that is read cannot be
applied to a list. -/
theorem parse_hidden_draft :
    let d : Draft := ⟨.list, .str "integer", .null, .null⟩
    let make := fun _ : List Value => (pure (some (.all 0 (.mk [.draft d] .null))) :
      Act (Option Rule))
    let g := (({} : Registry).register [("numbers", some (.custom make))]).registry
    ∃ s, outcome (g.parse (.str "numbers")) {} = .ok s ∧ .rule (.draft d) ∈ s.pieces ∧
      outcome (s.apply (.list [.int 1, .str "x"]) .null) {} = .error .draft := by
  intro d make g
  refine ⟨.mk [.all 0 (.mk [.draft d] .null)] .null,
    parse_custom (Description.calls_name "numbers") rfl rfl rfl, ?_, ?_⟩
  · simp [RuleSet.pieces, rulePieces, Rule.pieces]
  · simp [RuleSet.apply, firstReport, Rule.apply, Value.isAbsent]

end Registry

end RecordCheck
