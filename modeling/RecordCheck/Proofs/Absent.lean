import RecordCheck.Proofs.Piece
import RecordCheck.Validation

/-!
# Absent values

Null and the empty text reach no rules but those about absent values, however deep the sets are that
these stand in. All other rules may be left out of a set, or give any answer they like, without a
change in what is reported about an absent value.

## Main definitions

* `RuleSet.strip`: a set with the rules about absent values alone.
* `RuleSet.applyWith`: what a set reports when all other rules give answers of any kind.

## Main statements

* `RuleSet.seesAbsent_of_mem_strip`: what is left in a stripped set.
* `RuleSet.applyWith_apply`: with their own answers, rules report what they report.
* `RuleSet.apply_strip`: about absent values, a set reports what the stripped set reports.
-/
set_option autoImplicit false

namespace RecordCheck

/-! ## Stripped sets -/

mutual

/-- A set without the rules that are not about absent values, in the sets within it too. Overrides
are kept. -/
def RuleSet.strip : RuleSet → RuleSet
  | .mk rules override => .mk (stripRules rules) override

@[inherit_doc RuleSet.strip]
def stripRules : List Rule → List Rule
  | [] => []
  | .blank test :: rules => .blank test :: stripRules rules
  | .all serial s :: rules => .all serial s.strip :: stripRules rules
  | _ :: rules => stripRules rules

end

/-- A rule that does not see absent values is left out. -/
theorem stripRules_skip {rule : Rule} (blind : rule.seesAbsent = false) (rules : List Rule) :
    stripRules (rule :: rules) = stripRules rules := by
  cases rule with
  | blank test => cases blind
  | all serial s => cases blind
  | _ => simp only [stripRules]

mutual

/-- A stripped set consists of rules about absent values and of sets. -/
theorem RuleSet.seesAbsent_of_mem_strip {rule : Rule} :
    (s : RuleSet) → .rule rule ∈ s.strip.pieces → rule.seesAbsent
  | .mk rules override, h => by
    rw [RuleSet.strip, RuleSet.pieces, List.mem_cons] at h
    exact seesAbsent_of_mem_stripRules rules (h.resolve_left Piece.noConfusion)

theorem seesAbsent_of_mem_stripRules {rule : Rule} :
    (rules : List Rule) → .rule rule ∈ rulePieces (stripRules rules) → rule.seesAbsent
  | [], h => by simp [stripRules, rulePieces] at h
  | .blank test :: rules, h => by
    rw [stripRules, rulePieces, List.mem_append] at h
    rcases h with h | h
    · cases List.mem_singleton.mp h
      rfl
    · exact seesAbsent_of_mem_stripRules rules h
  | .all serial s :: rules, h => by
    rw [stripRules, rulePieces, List.mem_append, Rule.pieces, List.mem_cons] at h
    rcases h with (h | h) | h
    · cases h
      rfl
    · exact RuleSet.seesAbsent_of_mem_strip s h
    · exact seesAbsent_of_mem_stripRules rules h
  | .comparison _ :: rules, h | .length _ :: rules, h | .shape _ :: rules, h
  | .pattern _ :: rules, h | .timezone _ :: rules, h | .draft _ :: rules, h
  | .object .. :: rules, h | .listOf .. :: rules, h | .objects .. :: rules, h => by
    rw [stripRules_skip rfl] at h
    exact seesAbsent_of_mem_stripRules rules h

end

/-! ## Rules with other answers -/

section Answers

variable (answer : Rule → Value → Value → Act (Option Report))

mutual

/-- What a set reports when the rules in it that are neither sets nor about absent values answer as
they are told, with reports, errors or what they take from streams. -/
def RuleSet.applyWith : RuleSet → Value → Value → Act (Option Report)
  | .mk rules override, v, record => do
    return (← firstAnswer rules v record).map (overridden override)

/-- What a rule reports when others answer as they are told. -/
def Rule.applyWith : Rule → Value → Value → Act (Option Report)
  | .blank test, v, record => (Rule.blank test).apply v record
  | .all _ s, v, record => s.applyWith v record
  | rule, v, record => answer rule v record

/-- The first answer with a report. Absent values are shown only to rules that see them. -/
def firstAnswer : List Rule → Value → Value → Act (Option Report)
  | [], _, _ => return none
  | rule :: rules, v, record =>
    if v.isAbsent && !rule.seesAbsent then firstAnswer rules v record
    else do
      match ← rule.applyWith v record with
      | some report => return some report
      | none => firstAnswer rules v record

end

end Answers

mutual

/-- With the answers that are their own, rules report what they report. -/
theorem RuleSet.applyWith_apply (v record : Value) :
    (s : RuleSet) → s.applyWith Rule.apply v record = s.apply v record
  | .mk rules override => by
    rw [RuleSet.applyWith, RuleSet.apply, firstAnswer_apply v record rules]

theorem Rule.applyWith_apply (v record : Value) :
    (r : Rule) → r.applyWith Rule.apply v record = r.apply v record
  | .all serial s => by rw [Rule.applyWith, Rule.apply, RuleSet.applyWith_apply v record s]
  | .blank _ | .comparison _ | .length _ | .shape _ | .pattern _ | .timezone _ | .draft _
  | .object .. | .listOf .. | .objects .. => by simp only [Rule.applyWith]

theorem firstAnswer_apply (v record : Value) :
    (rules : List Rule) → firstAnswer Rule.apply rules v record = firstReport rules v record
  | [] => by rw [firstAnswer, firstReport]
  | rule :: rules => by
    rewrite [firstAnswer, firstReport, Rule.applyWith_apply v record rule,
      firstAnswer_apply v record rules]
    rfl

end

/-! ## Reports about absent values -/

section Absent

variable {v : Value} (record : Value) (answer : Rule → Value → Value → Act (Option Report))

/-- A rule that does not see absent values is passed over. -/
theorem firstAnswer_skip (absent : v.isAbsent) {rule : Rule} (blind : rule.seesAbsent = false)
    (rules : List Rule) :
    firstAnswer answer (rule :: rules) v record = firstAnswer answer rules v record := by
  rw [firstAnswer, if_pos (by simp [absent, blind])]

mutual

/-- About absent values, other rules may answer whatever they like. -/
theorem RuleSet.applyWith_strip (absent : v.isAbsent) :
    (s : RuleSet) → s.applyWith answer v record = s.strip.apply v record
  | .mk rules override => by
    rw [RuleSet.applyWith, RuleSet.strip, RuleSet.apply, firstAnswer_strip absent rules]

theorem firstAnswer_strip (absent : v.isAbsent) : (rules : List Rule) →
    firstAnswer answer rules v record = firstReport (stripRules rules) v record
  | [] => by rw [firstAnswer, stripRules, firstReport]
  | .blank test :: rules => by
    rewrite [firstAnswer, stripRules, firstReport, Rule.applyWith, firstAnswer_strip absent rules]
    rfl
  | .all serial s :: rules => by
    rewrite [firstAnswer, stripRules, firstReport, Rule.applyWith, Rule.apply,
      RuleSet.applyWith_strip absent s, firstAnswer_strip absent rules]
    rfl
  | .comparison _ :: rules | .length _ :: rules | .shape _ :: rules | .pattern _ :: rules
  | .timezone _ :: rules | .draft _ :: rules | .object .. :: rules | .listOf .. :: rules
  | .objects .. :: rules => by
    rw [firstAnswer_skip record answer absent rfl, stripRules_skip rfl,
      firstAnswer_strip absent rules]

end

end Absent

/-- A set reports about an absent value what it would report without the rules that are not about
absent values, with some of them only, and with any other answers in their place. Its report is the
one with their own answers. -/
theorem RuleSet.apply_strip {v : Value} (absent : v.isAbsent) (s : RuleSet) (record : Value) :
    s.apply v record = s.strip.apply v record ∧
      (∀ t : RuleSet, t.strip = s.strip → t.apply v record = s.apply v record) ∧
      s.applyWith Rule.apply v record = s.apply v record ∧
      ∀ answer, s.applyWith answer v record = s.strip.apply v record := by
  have any := fun (t : RuleSet) answer => t.applyWith_strip record answer absent
  have own := fun t : RuleSet => t.applyWith_apply v record
  have stripped := fun t => (own t).symm.trans (any t Rule.apply)
  refine ⟨stripped s, fun t same => ?_, own s, any s⟩
  rw [stripped t, stripped s, same]

/-- An alias for a rule that is required and long enough, behind a draft. -/
theorem RuleSet.apply_strip_of_alias :
    let length : Length := ⟨.atLeast, .int 2, Length.defaultEncoding⟩
    let s := RuleSet.mk [.draft ⟨.list, .null, .null, .null⟩,
      .all 0 (.mk [.length length, .blank .required] (.str "PASSWORD"))] .null
    let stripped := RuleSet.mk [.all 0 (.mk [.blank .required] (.str "PASSWORD"))] .null
    (Value.str "").isAbsent ∧ s.strip = stripped ∧
      s.apply (.str "") .null = stripped.apply (.str "") .null ∧
      (∀ t : RuleSet, t.strip = stripped → t.apply (.str "") .null = s.apply (.str "") .null) ∧
      s.applyWith Rule.apply (.str "") .null = s.apply (.str "") .null ∧
      s.applyWith (fun _ _ _ => throw .draft) (.str "") .null = stripped.apply (.str "") .null := by
  intro length s stripped
  have same : s.strip = stripped := by simp [s, stripped, RuleSet.strip, stripRules]
  obtain ⟨apply, other, own, any⟩ := RuleSet.apply_strip (v := .str "") rfl s .null
  rw [same] at apply other any
  exact ⟨rfl, same, apply, other, own, any _⟩

end RecordCheck
