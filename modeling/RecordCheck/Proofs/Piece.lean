import RecordCheck.Rule.Basic

/-!
# Pieces of rules

Rules, sets of rules and validators are made of one another. The pieces of any of them are all that
is found in it, itself included, so that a property of a whole tree is a property of its pieces.

## Main definitions

* `Piece`, and `Rule.pieces`, `RuleSet.pieces`, `Validator.pieces`.
-/
set_option autoImplicit false

namespace RecordCheck

/-- What trees of rules are made of. -/
inductive Piece where
  | rule (r : Rule)
  | set (s : RuleSet)
  | validator (v : Validator)

mutual

/-- A rule with all that is found in it. -/
def Rule.pieces : Rule → List Piece
  | .object field entryField v => .rule (.object field entryField v) :: v.pieces
  | .listOf field serial entryField s => .rule (.listOf field serial entryField s) :: s.pieces
  | .objects field entryField v => .rule (.objects field entryField v) :: v.pieces
  | .all serial s => .rule (.all serial s) :: s.pieces
  | rule => [.rule rule]

/-- A set with all that is found in it. -/
def RuleSet.pieces : RuleSet → List Piece
  | .mk rules override => .set (.mk rules override) :: rulePieces rules

def rulePieces : List Rule → List Piece
  | [] => []
  | rule :: rules => rule.pieces ++ rulePieces rules

/-- A validator with all that is found in it. -/
def Validator.pieces : Validator → List Piece
  | .fields serial entries => .validator (.fields serial entries) :: fieldPieces entries
  | .switch serial field cases => .validator (.switch serial field cases) :: casePieces cases

def fieldPieces : List (Value × RuleSet) → List Piece
  | [] => []
  | (_, s) :: entries => s.pieces ++ fieldPieces entries

def casePieces : List (Value × Validator) → List Piece
  | [] => []
  | (_, v) :: cases => v.pieces ++ casePieces cases

end

theorem mem_rulePieces {x : Piece} {rules : List Rule} :
    x ∈ rulePieces rules ↔ ∃ rule ∈ rules, x ∈ rule.pieces := by
  induction rules with
  | nil => simp [rulePieces]
  | cons rule rules ih => simp [rulePieces, ih]

theorem mem_fieldPieces {x : Piece} {entries : List (Value × RuleSet)} :
    x ∈ fieldPieces entries ↔ ∃ entry ∈ entries, x ∈ entry.2.pieces := by
  induction entries with
  | nil => simp [fieldPieces]
  | cons entry entries ih => simp [fieldPieces, ih]

theorem mem_casePieces {x : Piece} {cases : List (Value × Validator)} :
    x ∈ casePieces cases ↔ ∃ case ∈ cases, x ∈ case.2.pieces := by
  induction cases with
  | nil => simp [casePieces]
  | cons case cases ih => simp [casePieces, ih]

theorem Rule.self_mem_pieces (r : Rule) : .rule r ∈ r.pieces := by
  cases r <;> simp [Rule.pieces]

theorem RuleSet.self_mem_pieces (s : RuleSet) : .set s ∈ s.pieces := by
  cases s
  simp [RuleSet.pieces]

theorem Validator.self_mem_pieces (v : Validator) : .validator v ∈ v.pieces := by
  cases v <;> simp [Validator.pieces]

theorem RuleSet.mem_pieces {x : Piece} {s : RuleSet} :
    x ∈ s.pieces ↔ x = .set s ∨ ∃ rule ∈ s.rules, x ∈ rule.pieces := by
  cases s
  simp [RuleSet.pieces, RuleSet.rules, mem_rulePieces]

/-- All that is found in a piece, itself included. -/
def Piece.pieces : Piece → List Piece
  | .rule r => r.pieces
  | .set s => s.pieces
  | .validator v => v.pieces

section Inside

variable {x : Piece}

mutual

/-- What is found in a piece of a rule is found in the rule. -/
theorem Rule.pieces_subset : (r : Rule) → x ∈ r.pieces → x.pieces ⊆ r.pieces
  | .object field entryField v, h => by
    rcases List.mem_cons.1 h with rfl | h
    · exact List.Subset.refl _
    · exact List.subset_cons_of_subset _ (Validator.pieces_subset v h)
  | .listOf field serial entryField s, h => by
    rcases List.mem_cons.1 h with rfl | h
    · exact List.Subset.refl _
    · exact List.subset_cons_of_subset _ (RuleSet.pieces_subset s h)
  | .objects field entryField v, h => by
    rcases List.mem_cons.1 h with rfl | h
    · exact List.Subset.refl _
    · exact List.subset_cons_of_subset _ (Validator.pieces_subset v h)
  | .all serial s, h => by
    rcases List.mem_cons.1 h with rfl | h
    · exact List.Subset.refl _
    · exact List.subset_cons_of_subset _ (RuleSet.pieces_subset s h)
  | .blank _, h | .comparison _, h | .length _, h | .shape _, h | .pattern _, h | .timezone _, h
  | .draft _, h => List.mem_singleton.1 h ▸ List.Subset.refl _

theorem RuleSet.pieces_subset : (s : RuleSet) → x ∈ s.pieces → x.pieces ⊆ s.pieces
  | .mk rules _, h => by
    rcases List.mem_cons.1 h with rfl | h
    · exact List.Subset.refl _
    · exact List.subset_cons_of_subset _ (rulePieces_subset rules h)

theorem rulePieces_subset : (rules : List Rule) → x ∈ rulePieces rules →
    x.pieces ⊆ rulePieces rules
  | rule :: rules, h => by
    rcases List.mem_append.1 h with h | h
    · exact List.subset_append_of_subset_left _ (Rule.pieces_subset rule h)
    · exact List.subset_append_of_subset_right _ (rulePieces_subset rules h)

theorem Validator.pieces_subset : (v : Validator) → x ∈ v.pieces → x.pieces ⊆ v.pieces
  | .fields _ entries, h => by
    rcases List.mem_cons.1 h with rfl | h
    · exact List.Subset.refl _
    · exact List.subset_cons_of_subset _ (fieldPieces_subset entries h)
  | .switch _ _ cases, h => by
    rcases List.mem_cons.1 h with rfl | h
    · exact List.Subset.refl _
    · exact List.subset_cons_of_subset _ (casePieces_subset cases h)

theorem fieldPieces_subset : (entries : List (Value × RuleSet)) → x ∈ fieldPieces entries →
    x.pieces ⊆ fieldPieces entries
  | (_, s) :: entries, h => by
    rcases List.mem_append.1 h with h | h
    · exact List.subset_append_of_subset_left _ (RuleSet.pieces_subset s h)
    · exact List.subset_append_of_subset_right _ (fieldPieces_subset entries h)

theorem casePieces_subset : (cases : List (Value × Validator)) → x ∈ casePieces cases →
    x.pieces ⊆ casePieces cases
  | (_, v) :: cases, h => by
    rcases List.mem_append.1 h with h | h
    · exact List.subset_append_of_subset_left _ (Validator.pieces_subset v h)
    · exact List.subset_append_of_subset_right _ (casePieces_subset cases h)

end

end Inside

end RecordCheck
