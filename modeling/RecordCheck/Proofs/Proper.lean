import RecordCheck.Proofs.Fit
import RecordCheck.Proofs.Formats
import RecordCheck.Proofs.PatternText
import RecordCheck.Proofs.Registry
import RecordCheck.Recipe

/-!
# Rules as they are made

However a rule is made, its operators are those that their words stand for, and its patterns were
read from their texts. So neither can be told apart by anything but what they are written as.

## Main definitions

* `Piece.IsProper`: a piece as it can be made.

## Main statements

* `Builtin.make_proper`, `Family.assemble_proper`, `Recipe.make_proper`: rules that are made are
  proper.
* `Registry.upholds_proper`: so are all pieces of what is read from descriptions.
-/
set_option autoImplicit false

namespace RecordCheck

open Act

/-- A pattern that was read from its text. -/
def Pattern.IsRead (p : Pattern) : Prop := ∃ flags, ofSource p.isText p.source flags = .ok p

/-- A piece with the operator that its word stands for, or with a pattern that was read. -/
def Piece.IsProper : Piece → Prop
  | .rule (.blank test) => .ofOperator test.operator = test
  | .rule (.comparison c) => .ofValue c.operator.toValue = c.operator
  | .rule (.length l) => .ofValue l.operator.toValue = l.operator
  | .rule (.shape test) => .ofOperator test.operator = test
  | .rule (.pattern m) => m.pattern.IsRead
  | _ => True

/-- All pieces of a rule are proper. -/
def Rule.IsProper (r : Rule) : Prop := ∀ x ∈ r.pieces, x.IsProper

theorem BlankTest.ofOperator_operator (v : Value) :
    ofOperator (ofOperator v).operator = ofOperator v := by
  fun_cases ofOperator v <;> simp_all [operator, ofOperator]

theorem ShapeTest.ofOperator_operator (v : Value) :
    ofOperator (ofOperator v).operator = ofOperator v := by
  fun_cases ofOperator v <;> simp_all [operator, ofOperator]

theorem Comparison.ofValue_toValue (v : Value) :
    Operator.ofValue (Operator.ofValue v).toValue = Operator.ofValue v := by
  fun_cases Operator.ofValue v <;> simp_all [Operator.toValue, Operator.ofValue]

theorem Length.ofValue_toValue (v : Value) :
    Operator.ofValue (Operator.ofValue v).toValue = Operator.ofValue v := by
  fun_cases Operator.ofValue v <;> simp_all [Operator.toValue, Operator.ofValue]

theorem Comparison.proper_of_fit {c : Comparison} (fit : c.IsFit) :
    .ofValue c.operator.toValue = c.operator := by
  obtain ⟨operator, operand⟩ := c
  cases operator with
  | unknown => exact fit.elim
  | _ => rfl

theorem Length.proper_of_fit {l : Length} (fit : l.IsFit) :
    .ofValue l.operator.toValue = l.operator := by
  obtain ⟨operator, bounds, encoding⟩ := l
  cases operator with
  | unknown => exact fit.elim
  | _ => rfl

theorem Pattern.ofSource_isRead {isText : Bool} {source : List Char} {flags : PatternFlags}
    {p : Pattern} (made : ofSource isText source flags = .ok p) : p.IsRead := by
  obtain ⟨reading, -, rfl⟩ := ofSource_ok made
  exact ⟨flags, made⟩

theorem Pattern.ofValue_isRead {v : Value} {flags : PatternFlags} {p : Pattern}
    (made : ofValue v flags = .ok p) : p.IsRead := by
  unfold ofValue at made
  split at made
  · exact ofSource_isRead made
  · exact ofSource_isRead made
  · cases made

theorem Match.like_isRead (pattern flags : Value) :
    Yields (like pattern flags) fun m => m.pattern.IsRead := by
  have rest (flags : Value) : Yields (do
      let p ← Pattern.ofValue pattern (← PatternFlags.ofValue flags)
      return (⟨p, .str Code.wrongFormat⟩ : Match)) fun m => m.pattern.IsRead :=
    (yields_any _).bind fun letters _ =>
      Ensures.bind (.lift (fun _ => Pattern.ofValue_isRead) fun _ _ => trivial) fun p read =>
        .pure read
  unfold like
  dsimp only
  split <;> exact (yields_any _).bind fun _ _ => rest _

theorem Match.ofPattern_pattern {p : Pattern} {error : Value} {m : Match}
    (made : ofPattern p error = .ok m) : m.pattern = p := by
  have kept {blank : Except Error Bool} (made : blank.map (fun b =>
      (⟨p, if b then .str Code.wrongFormat else error⟩ : Match)) = .ok m) : m.pattern = p := by
    cases blank <;> cases made
    rfl
  exact kept made

namespace Rule

theorem isProper_of_piece {r : Rule} (pieces : r.pieces = [.rule r])
    (own : (Piece.rule r).IsProper) : r.IsProper := by
  rw [IsProper, pieces]
  exact List.forall_mem_singleton.2 own

theorem draft_proper (d : Draft) : (draft d).IsProper := isProper_of_piece rfl trivial

theorem blank_proper (v : Value) : (blank (.ofOperator v)).IsProper :=
  isProper_of_piece rfl (BlankTest.ofOperator_operator v)

theorem comparison_proper (v operand : Value) : (comparison ⟨.ofValue v, operand⟩).IsProper :=
  isProper_of_piece rfl (Comparison.ofValue_toValue v)

theorem length_proper (v bounds encoding : Value) :
    (length ⟨.ofValue v, bounds, encoding⟩).IsProper :=
  isProper_of_piece rfl (Length.ofValue_toValue v)

theorem shape_proper (v : Value) : (shape (.ofOperator v)).IsProper :=
  isProper_of_piece rfl (ShapeTest.ofOperator_operator v)

end Rule

/-- What a built-in rule makes is proper. -/
theorem Builtin.make_proper (b : Builtin) (args : List Value) :
    Yields (b.make args) Rule.IsProper := by
  have made {α : Type} {r : Except Error α} {P : α → Prop} {f : α → Rule}
      (ok : ∀ x, r = .ok x → P x) (proper : ∀ x, P x → (f x).IsProper) :
      Yields (do return f (← r)) Rule.IsProper :=
    Ensures.bind (.lift ok fun _ _ => trivial) fun x h => .pure (proper x h)
  have comparison {c : Comparison} (fit : c.IsFit) : (Rule.comparison c).IsProper :=
    Rule.isProper_of_piece rfl (Comparison.proper_of_fit fit)
  have length {l : Length} (fit : l.IsFit) : (Rule.length l).IsProper :=
    Rule.isProper_of_piece rfl (Length.proper_of_fit fit)
  have pattern {m : Match} (read : m.pattern.IsRead) : (Rule.pattern m).IsProper :=
    Rule.isProper_of_piece rfl read
  unfold make
  split
  case h_1 | h_2 | h_3 => exact .pure (Rule.isProper_of_piece rfl rfl)
  case h_4 => exact .map ((Comparison.oneOf_fit _).mono (fun _ => comparison) fun _ h => h)
  case h_5 | h_16 | h_17 | h_18 | h_19 | h_27 => exact .pure (Rule.isProper_of_piece rfl rfl)
  case h_6 | h_7 => exact made (fun _ => Length.atLeast_fit) fun _ => length
  case h_8 | h_9 => exact made (fun _ => Length.atMost_fit) fun _ => length
  case h_10 | h_11 => exact made (fun _ => Length.exactly_fit) fun _ => length
  case h_12 | h_13 => exact made (fun _ => Length.between_fit) fun _ => length
  case h_14 | h_15 => exact .map ((Match.like_isRead _ _).mono (fun _ => pattern) fun _ h => h)
  case h_20 => exact made (fun _ => Comparison.atLeast_fit) fun _ => comparison
  case h_21 => exact made (fun _ => Comparison.atMost_fit) fun _ => comparison
  case h_22 => exact made (fun _ => Comparison.within_fit) fun _ => comparison
  case h_23 => exact .pure (pattern (Pattern.ofSource_isRead Pattern.ofSource_email))
  case h_24 => exact .pure (pattern (Pattern.ofSource_isRead Pattern.ofSource_date))
  case h_25 => exact .pure (pattern (Pattern.ofSource_isRead Pattern.ofSource_url))
  case h_26 => exact .pure (Rule.isProper_of_piece rfl trivial)
  case h_28 | h_29 => exact .pure (Rule.isProper_of_piece rfl rfl)
  case h_30 | h_32 | h_33 => exact made (fun _ _ => trivial) fun _ _ => Rule.draft_proper _
  case h_31 => exact .pure (Rule.draft_proper _)
  case h_34 => exact .throw trivial

/-- What is put together from parts is proper. -/
theorem Family.assemble_proper (f : Family) (args : List Value) :
    Yields (f.assemble args) Rule.IsProper := by
  have pattern {p : Pattern} (read : p.IsRead) (error : Value) :
      Yields (do return .pattern (← Match.ofPattern p error)) Rule.IsProper :=
    Ensures.bind (P := fun m => m.pattern = p)
      (.lift (fun _ => Match.ofPattern_pattern) fun _ _ => trivial) fun m same =>
        .pure (Rule.isProper_of_piece rfl (same ▸ read : m.pattern.IsRead))
  unfold assemble
  split
  case h_1 => exact .pure (Rule.blank_proper _)
  case h_2 | h_3 => exact .pure (Rule.comparison_proper _ _)
  case h_4 | h_5 => exact .pure (Rule.length_proper _ _ _)
  case h_6 => exact .pure (Rule.shape_proper _)
  case h_7 | h_8 | h_9 => exact .pure (Rule.draft_proper _)
  case h_10 =>
    refine Ensures.bind (.lift (fun _ => Pattern.ofValue_isRead) fun _ _ => trivial)
      fun p read => ?_
    split
    · exact pattern read _
    · exact pattern read _
    · exact .throw trivial
  case h_11 => exact .pure (Rule.isProper_of_piece rfl trivial)
  case h_12 =>
    refine (yields_any _).bind fun members _ => ?_
    split
    · exact .pure (Rule.isProper_of_piece rfl trivial)
    · exact .throw trivial
  case h_13 => exact .throw trivial

/-- What a registry reads is proper if what its own rules make is. -/
theorem Registry.upholds_proper {g : Registry} (custom : ∀ name make,
    g.find? name = some (.custom make) → ∀ args, Yields (make args) fun made =>
      ∀ rule ∈ made, rule.IsProper) : g.Upholds (fun _ => True) Piece.IsProper := by
  have made {rule : Rule} (proper : rule.IsProper) : Made (fun _ => True) Piece.IsProper rule := by
    cases rule with
    | draft => exact trivial
    | _ => exact proper
  exact {
    hereditary := ⟨trivial, fun _ _ _ => trivial, fun _ _ _ => trivial⟩
    builtin := fun b args _ => (b.make_proper args).mono (fun _ => made) fun _ h => h
    custom := fun name make found args _ => (custom name make found args).mono
      (fun _ proper rule member => made (proper rule member)) fun _ h => h
    standsFor := fun _ _ _ _ => ⟨trivial, fun _ => trivial⟩
    composed := fun rule composed => by
      cases rule <;> first | exact trivial | exact composed.elim
    set := fun _ => trivial
    fields := fun _ _ _ _ => trivial
    switch := fun _ _ _ _ => trivial }

namespace Recipe

theorem finish_proper {rule : Rule} (proper : rule.IsProper) :
    Yields (rule.finish {}) Rule.IsProper := by
  have none : ∀ name make, ({} : Registry).find? name = some (.custom make) → False :=
    fun name make found =>
      ((Registry.IsStandard.builtins (D := fun _ => True) "entry" true).find? found).elim
  cases rule with
  | draft d =>
    exact Registry.finish_upholds
      (Registry.upholds_proper fun name make found => (none name make found).elim) trivial
  | object | listOf | objects => exact .pure proper
  | _ => exact .throw trivial

theorem mem_of_rulesOf {made : List (Rule ⊕ Value)} {rules : List Rule}
    (given : rulesOf made = .ok rules) : ∀ rule ∈ rules, .inl rule ∈ made := by
  induction made generalizing rules with
  | nil =>
    cases given
    simp
  | cons first made ih =>
    cases first with
    | inr v => cases given
    | inl rule =>
      rw [rulesOf] at given
      cases rest : rulesOf made <;> rw [rest] at given <;> cases given
      exact fun rule' member => (List.mem_cons.1 member).elim (fun same => by simp [same])
        fun member => List.mem_cons_of_mem _ (ih rest rule' member)

mutual

/-- What a recipe makes is proper. -/
theorem make_proper : (r : Recipe) → (more : List Value) → Yields (r.make more) Rule.IsProper
  | .call b arguments finished, more => by
    rw [make]
    refine (yields_any _).bind fun values _ => (b.make_proper _).bind fun made proper => ?_
    split
    · exact finish_proper proper
    · exact .pure proper
  | .assemble family parts finished, more => by
    rw [make]
    refine (yields_any _).bind fun values _ => (family.assemble_proper _).bind fun made proper => ?_
    split
    · exact finish_proper proper
    · exact .pure proper
  | .set members override, more => by
    rw [make]
    refine (makeAll_proper members).bind fun made proper =>
      Ensures.bind (.lift (fun _ => mem_of_rulesOf) fun _ _ => trivial) fun rules given =>
        (yields_any _).bind fun override _ => .pure fun x inside => ?_
    rcases List.mem_cons.1 inside with rfl | inside
    · exact trivial
    rcases RuleSet.mem_pieces.1 inside with rfl | ⟨rule, member, inside⟩
    · exact trivial
    · exact proper rule (given rule member) x inside

theorem makeAll_proper : (members : List (Recipe ⊕ Value)) →
    Yields (makeAll members) fun made => ∀ rule, .inl rule ∈ made → rule.IsProper
  | [] => .pure (by simp)
  | .inl recipe :: rest => by
    rw [makeAll]
    refine (make_proper recipe []).bind fun rule own =>
      (makeAll_proper rest).bind fun made others => .pure fun rule' member => ?_
    rcases List.mem_cons.1 member with same | member
    · exact Sum.inl.inj same ▸ own
    · exact others rule' member
  | .inr v :: rest => by
    rw [makeAll]
    refine (makeAll_proper rest).bind fun made others => .pure fun rule member => ?_
    exact others rule (by simpa using member)

end

end Recipe

end RecordCheck
