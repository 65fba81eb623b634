import RecordCheck.Proofs.EqualLeaves
import RecordCheck.Proofs.Proper

/-!
# Rules that are the same can stand for each other

Rules with the same parts report the same about every value of every record, and take the same from
streams, as long as their operands agree where kinds and orders count. For a set of rules this has
to hold rule by rule. Rules with validators inside them need no more, since validators are the same
only if they were built at one time.

## Main definitions

* `Report.Like`: reports that are the same as values.
* `Coherent`: one number stands for one thing.
* `Rule.AgreesInKind`: the operands of two rules differ in nothing that counts.
* `Rule.Nests`: the rules with a validator inside them.

## Main statements

* `Rule.apply_kin`, `RuleSet.apply_kin`: rules and sets with the same parts do the same.
* `Rule.interchangeable`: rules that are the same and agree in kind can stand for each other.
-/
set_option autoImplicit false

namespace RecordCheck

open Act

/-! ## Reports -/

/-- Reports that are the same as values. -/
def Report.Like (r s : Report) : Prop := r.toValue.Twin s.toValue

namespace Report

theorem Like.refl (r : Report) : r.Like r := .inl rfl

theorem like_ofCode {x y : Value} (h : x.Twin y) : (ofCode x).Like (ofCode y) := by
  rcases h with rfl | h
  · exact .refl _
  · have one : Value.sameSequence [x] [y] :=
      Value.sameSequence_iff.2 (.cons (Value.alike_iff.2 (.inr h)) .nil)
    exact .inr (Value.same_iff.2 (.list one))

/-- Reports that are alike, or none. -/
abbrev AreLike : Option Report → Option Report → Prop := Option.Rel Like

theorem AreLike.of_eq {r s : Option Report} (same : r = s) : AreLike r s := by
  subst same
  cases r with
  | none => exact .none
  | some r => exact .some (.refl r)

/-- What stands in place of reports is alike if they are. -/
theorem AreLike.overridden {r s : Option Report} {x y : Value} (h : AreLike r s) (same : x.same y) :
    AreLike (r.map (overridden x)) (s.map (overridden y)) := by
  cases h with
  | none => exact .none
  | some like =>
    refine .some ?_
    by_cases null : x = .null
    · rw [null] at same ⊢
      rw [Value.eq_null_of_null_same same]
      exact like
    · have other : y ≠ .null := fun missing =>
        null (Value.eq_null_of_same_null (missing ▸ same))
      have own {z : Value} (given : z ≠ .null) (r : Report) :
          RecordCheck.overridden z r = ofCode z := by
        cases z <;> first | rfl | exact absurd rfl given
      rw [own null, own other]
      exact like_ofCode (.inr same)

end Report

/-! ## Numbers -/

/-- Validators with one number are one validator, and so are streams. -/
def Part.Coherent : Part → Part → Prop
  | .validator v, .validator w => v.serial = w.serial → v = w
  | .value (.stream m xs), .value (.stream n ys) => m = n → xs = ys
  | _, _ => True

theorem Part.Coherent.streams {v w : Value} (h : Coherent (.value v) (.value w)) :
    ∀ m xs ys, v = .stream m xs → w = .stream m ys → xs = ys := by
  rintro m xs ys rfl rfl
  exact h rfl

/-- In the rules of two trees, one number stands for one validator, stream or set. -/
structure Coherent (xs ys : List Piece) : Prop where
  parts : ∀ {r s}, .rule r ∈ xs → .rule s ∈ ys → ∀ p ∈ r.parts, ∀ q ∈ s.parts, p.2.Coherent q.2
  sets : ∀ {n s t}, .rule (.all n s) ∈ xs → .rule (.all n t) ∈ ys → n ≠ 0 → s = t

/-- Two trees of rules as they are made, which numbers tell apart. -/
structure Comparable (xs ys : List Piece) : Prop where
  own : ∀ x ∈ xs, x.IsProper
  other : ∀ y ∈ ys, y.IsProper
  coherent : Coherent xs ys

theorem Comparable.mono {xs ys xs' ys' : List Piece} (made : Comparable xs ys) (own : xs' ⊆ xs)
    (other : ys' ⊆ ys) : Comparable xs' ys' :=
  ⟨fun x inside => made.own x (own inside), fun y inside => made.other y (other inside),
    fun one two => made.coherent.parts (own one) (other two),
    fun one two => made.coherent.sets (own one) (other two)⟩

/-! ## Agreement in kind -/

mutual

/-- The operands of two rules differ in nothing that counts. -/
def Rule.AgreesInKind : Rule → Rule → Prop
  | .comparison c, .comparison d => c.AgreesInKind d
  | .length l, .length m => l.AgreesInKind m
  | .all _ s, .all _ t => s.AgreesInKind t
  | _, _ => True

/-- The rules of two sets agree one by one. -/
def RuleSet.AgreesInKind : RuleSet → RuleSet → Prop
  | .mk as _, .mk bs _ => rulesAgreeInKind as bs

def rulesAgreeInKind : List Rule → List Rule → Prop
  | a :: as, b :: bs => a.AgreesInKind b ∧ rulesAgreeInKind as bs
  | _, _ => True

end

/-! ## Rules with the same parts -/

namespace Rule

variable {a b : Rule} {v w : Value}

theorem twin_of_same (h : Part.same (.value v) (.value w)) : v.Twin w := Value.twin_of_alike h

/-- Rules other than sets are the same through their family and their parts. -/
theorem parts_of_same (noSet : a.familyName ≠ "RuleSet") (h : a.same b) :
    a.familyName = b.familyName ∧ sameParts a.parts b.parts := by
  unfold same at h
  split at h
  · exact absurd rfl noSet
  · simpa using h

theorem blank_of_same {t : BlankTest} (h : (blank t).same b) :
    ∃ u, b = .blank u ∧ t.operator.Twin u.operator := by
  obtain ⟨families, agree⟩ := parts_of_same (by simp [familyName]) h
  cases b with
  | blank u =>
    simp [sameParts, parts] at agree
    exact ⟨u, rfl, twin_of_same agree⟩
  | _ => simp [familyName] at families

theorem shape_of_same {t : ShapeTest} (h : (shape t).same b) :
    ∃ u, b = .shape u ∧ t.operator.Twin u.operator := by
  obtain ⟨families, agree⟩ := parts_of_same (by simp [familyName]) h
  cases b with
  | shape u =>
    simp [sameParts, parts] at agree
    exact ⟨u, rfl, twin_of_same agree⟩
  | _ => simp [familyName] at families

theorem comparison_of_same {c : Comparison} (h : (comparison c).same b) :
    ∃ d, b = .comparison d ∧ c.operator.toValue.Twin d.operator.toValue ∧
      c.operand.Twin d.operand := by
  obtain ⟨families, agree⟩ := parts_of_same (by simp [familyName]) h
  cases b with
  | comparison d =>
    simp [sameParts, parts] at agree
    exact ⟨d, rfl, twin_of_same agree.1, twin_of_same agree.2⟩
  | _ => simp [familyName] at families

theorem length_of_same {l : Length} (h : (length l).same b) :
    ∃ m, b = .length m ∧ l.operator.toValue.Twin m.operator.toValue ∧ l.bounds.Twin m.bounds ∧
      l.encoding.Twin m.encoding := by
  obtain ⟨families, agree⟩ := parts_of_same (by simp [familyName]) h
  cases b with
  | length m =>
    simp [sameParts, parts] at agree
    exact ⟨m, rfl, twin_of_same agree.1, twin_of_same agree.2.1, twin_of_same agree.2.2⟩
  | _ => simp [familyName] at families

theorem pattern_of_same {m : Match} (h : (pattern m).same b) :
    ∃ n, b = .pattern n ∧ m.pattern.same n.pattern ∧ m.error.Twin n.error := by
  obtain ⟨families, agree⟩ := parts_of_same (by simp [familyName]) h
  cases b with
  | pattern n =>
    simp [sameParts, parts] at agree
    exact ⟨n, rfl, agree.1, twin_of_same agree.2⟩
  | _ => simp [familyName] at families

theorem timezone_of_same {zones : List Value} (h : (timezone zones).same b) :
    ∃ zones', b = .timezone zones' ∧ Value.sameMembers zones zones' := by
  obtain ⟨families, agree⟩ := parts_of_same (by simp [familyName]) h
  cases b with
  | timezone zones' =>
    simp [sameParts, parts] at agree
    rw [Part.same, Value.same, Bool.and_eq_true] at agree
    exact ⟨zones', rfl, agree.2⟩
  | _ => simp [familyName] at families

theorem draft_of_same {d : Draft} (h : (draft d).same b) : ∃ d', b = .draft d' := by
  obtain ⟨families, agree⟩ := parts_of_same (by simp [familyName]) h
  cases b with
  | draft d' => exact ⟨d', rfl⟩
  | object | listOf | objects => simp [sameParts, parts, nestedParts, Part.same] at agree
  | _ => simp [familyName] at families

theorem all_of_same {n : Nat} {s : RuleSet} (h : (all n s).same b) :
    ∃ m t, b = .all m t ∧ ((n = m ∧ n ≠ 0) ∨ sameSet s t) := by
  unfold same at h
  split at h
  · next own => simpa [Rule.all.inj own] using h
  · next b _ _ notSet =>
    cases b with
    | all m t => exact (notSet n s m t rfl rfl).elim
    | _ => simp [familyName] at h

theorem seesAbsent_of_same (h : a.same b) : a.seesAbsent = b.seesAbsent := by
  by_cases set : a.familyName = "RuleSet"
  · cases a with
    | all n s =>
      obtain ⟨m, t, rfl, -⟩ := all_of_same h
      rfl
    | _ => simp [familyName] at set
  · have families := (parts_of_same set h).1
    cases a <;> cases b <;> first | rfl | simp [familyName] at families

/-- The rules with a validator inside them, by what they check. -/
inductive Nests : Rule → NestedKind → Validator → Prop
  | object (field entryField : Value) (v : Validator) : Nests (.object field entryField v) .object v
  | list (field : Value) (serial : Nat) (entryField : String) (rules : RuleSet) :
      Nests (.listOf field serial entryField rules) .list
        (.fields serial [(.str entryField, rules)])
  | objects (field entryField : Value) (serial : Nat) (entries : List (Value × RuleSet)) :
      Nests (.objects field entryField (.fields serial entries)) .objects (.fields serial entries)
  | variants (field entryField : Value) (serial : Nat) (key : Value)
      (cases : List (Value × Validator)) :
      Nests (.objects field entryField (.switch serial key cases)) .variants
        (.switch serial key cases)

theorem nests_of_family (family : b.familyName = "Nested") :
    (∃ d, b = .draft d) ∨ ∃ kind inner, b.Nests kind inner := by
  cases b with
  | draft d => exact .inl ⟨d, rfl⟩
  | object => exact .inr ⟨_, _, .object ..⟩
  | listOf => exact .inr ⟨_, _, .list ..⟩
  | objects _ _ v =>
    cases v with
    | fields => exact .inr ⟨_, _, .objects ..⟩
    | switch => exact .inr ⟨_, _, .variants ..⟩
  | _ => simp [familyName] at family

namespace Nests

variable {kind kind' : NestedKind} {inner : Validator}

theorem family (own : a.Nests kind inner) : a.familyName = "Nested" := by
  cases own <;> rfl

theorem parts (own : a.Nests kind inner) :
    ∃ field entryField, a.parts = nestedParts kind (.validator inner) field entryField := by
  cases own <;> exact ⟨_, _, rfl⟩

theorem word (own : a.Nests kind inner) :
    kind.toValue.isStr ∧ .ofValue kind.toValue = kind := by
  cases own <;> exact ⟨rfl, rfl⟩

/-- A rule that is the same as one with a validator inside has one that was built with it. -/
theorem of_same (own : a.Nests kind inner) (h : a.same b) :
    ∃ inner', b.Nests kind inner' ∧ inner.serial = inner'.serial := by
  obtain ⟨families, agree⟩ := parts_of_same (own.family ▸ by decide) h
  obtain ⟨_, _, shown⟩ := own.parts
  rw [shown] at agree
  obtain ⟨d, rfl⟩ | ⟨kind', inner', other⟩ := nests_of_family (families ▸ own.family)
  · simp [sameParts, Rule.parts, nestedParts, Part.same] at agree
  · obtain ⟨_, _, shown'⟩ := other.parts
    rw [shown'] at agree
    simp only [sameParts, nestedParts, Part.same, List.zip_cons_cons, List.all_cons,
      Bool.and_eq_true, beq_iff_eq] at agree
    obtain ⟨-, ⟨-, words⟩, ⟨-, serials⟩, -⟩ := agree
    have same : kind = kind' := by
      rw [← own.word.2, ← other.word.2,
        Value.eq_of_twin_text own.word.1 (Value.twin_of_alike words)]
    exact ⟨inner', same ▸ other, serials⟩

/-- Nothing else about such a rule makes a difference. -/
theorem apply_eq (own : a.Nests kind inner) (other : b.Nests kind inner) (v record : Value) :
    a.apply v record = b.apply v record := by
  cases own <;> cases other <;> rfl

end Nests

end Rule

/-! ## Interchange -/

namespace Rule

variable {a b : Rule}

/-- Actions that do the same report the same. -/
theorem kin_of_eq {a b : Act (Option Report)} (h : Kin Eq a b) : Kin Report.AreLike a b :=
  h.mono fun _ _ => .of_eq

/-- Tests with kindred outcomes have like reports. -/
theorem kin_reportOf {c d : Act (Option String)} (h : Kin Eq c d) :
    Kin Report.AreLike (do return reportOf (← c)) (do return reportOf (← d)) :=
  h.bind fun _ _ same => .pure (.of_eq (congrArg reportOf same))

theorem eq_of_nests {kind : NestedKind} {inner : Validator} (own : a.Nests kind inner)
    (coherent : Coherent a.pieces b.pieces) (h : a.same b) : b.Nests kind inner := by
  obtain ⟨inner', other, serials⟩ := own.of_same h
  obtain ⟨_, _, shown⟩ := own.parts
  obtain ⟨_, _, shown'⟩ := other.parts
  have same : inner = inner' := coherent.parts a.self_mem_pieces b.self_mem_pieces
    ("validator", .validator inner) (by simp [shown, nestedParts])
    ("validator", .validator inner') (by simp [shown', nestedParts]) serials
  exact same ▸ other

/-- Rules other than sets. -/
theorem apply_kin_of_noSet (noSet : a.familyName ≠ "RuleSet")
    (made : Comparable a.pieces b.pieces) (same : a.same b) (same' : b.same a)
    (agrees : a.AgreesInKind b) (v record : Value) :
    Kin Report.AreLike (a.apply v record) (b.apply v record) := by
  have own := made.own _ a.self_mem_pieces
  have other := made.other _ b.self_mem_pieces
  have paired := made.coherent.parts a.self_mem_pieces b.self_mem_pieces
  have nests {kind : NestedKind} {inner : Validator} (nests : a.Nests kind inner) :
      Kin Report.AreLike (a.apply v record) (b.apply v record) := by
    rw [nests.apply_eq (eq_of_nests nests made.coherent same)]
    exact kin_of_eq (.refl _)
  cases a with
  | blank t =>
    obtain ⟨u, rfl, one⟩ := blank_of_same same
    obtain ⟨_, back, two⟩ := blank_of_same same'
    cases back
    exact kin_reportOf (.lift (BlankTest.apply_kin own other one two v))
  | shape t =>
    obtain ⟨u, rfl, one⟩ := shape_of_same same
    obtain ⟨_, back, two⟩ := shape_of_same same'
    cases back
    exact kin_reportOf (.lift (ShapeTest.apply_kin own other one two v))
  | comparison c =>
    obtain ⟨d, rfl, operators, operands⟩ := comparison_of_same same
    obtain ⟨_, back, operators', operands'⟩ := comparison_of_same same'
    cases back
    have streams := paired ("operand", .value c.operand) (by simp [parts])
      ("operand", .value d.operand) (by simp [parts])
    exact kin_reportOf (Comparison.apply_kin own other operators operators' operands operands'
      streams.streams agrees v record)
  | length l =>
    obtain ⟨m, rfl, operators, bounds, encodings⟩ := length_of_same same
    obtain ⟨_, back, operators', bounds', encodings'⟩ := length_of_same same'
    cases back
    have streams := paired ("length", .value l.bounds) (by simp [parts])
      ("length", .value m.bounds) (by simp [parts])
    exact kin_reportOf (Length.apply_kin own other operators operators' bounds bounds' encodings
      encodings' streams.streams agrees v)
  | pattern m =>
    obtain ⟨n, rfl, patterns, errors⟩ := pattern_of_same same
    obtain ⟨given, read⟩ := own
    obtain ⟨others, read'⟩ := other
    refine (Kin.lift (Match.apply_kin read read' patterns errors v)).bind fun x y h => .pure ?_
    cases h with
    | none => exact .none
    | some twin => exact .some (Report.like_ofCode twin)
  | timezone zones =>
    obtain ⟨zones', rfl, one⟩ := timezone_of_same same
    obtain ⟨_, back, two⟩ := timezone_of_same same'
    cases back
    exact .pure (.of_eq (congrArg reportOf (zoneCode?_congr one two v)))
  | draft d =>
    obtain ⟨d', rfl⟩ := draft_of_same same
    exact kin_of_eq (.refl _)
  | object => exact nests (.object ..)
  | listOf => exact nests (.list ..)
  | objects _ _ inner =>
    cases inner with
    | fields => exact nests (.objects ..)
    | switch => exact nests (.variants ..)
  | all => exact absurd rfl noSet

end Rule

/-! ### Sets of rules

Sets within sets are compared in their turn, so that the induction is on the first rule. -/

mutual

/-- Rules with the same parts do the same. -/
theorem Rule.apply_kin : (a b : Rule) → Comparable a.pieces b.pieces → a.same b → b.same a →
    a.AgreesInKind b → ∀ v record, Kin Report.AreLike (a.apply v record) (b.apply v record)
  | .all n s, b, made, same, same', agrees, v, record => by
    obtain ⟨m, t, rfl, one⟩ := Rule.all_of_same same
    obtain ⟨_, _, back, two⟩ := Rule.all_of_same same'
    cases back
    rw [Rule.apply, Rule.apply]
    by_cases equal : s = t
    · exact equal ▸ Rule.kin_of_eq (.refl _)
    · have numbered : ¬ (n = m ∧ n ≠ 0) := fun ⟨numbers, other⟩ => equal
        (made.coherent.sets (Rule.self_mem_pieces _) (numbers ▸ Rule.self_mem_pieces _) other)
      have inside {n : Nat} {s : RuleSet} : s.pieces ⊆ (Rule.all n s).pieces :=
        List.subset_cons_self ..
      exact RuleSet.apply_kin s t (made.mono inside inside) (one.resolve_left numbered)
        (two.resolve_left fun ⟨numbers, other⟩ => numbered ⟨numbers.symm, numbers ▸ other⟩)
        agrees v record
  | .blank _, b, made, same, same', agrees, v, record
  | .comparison _, b, made, same, same', agrees, v, record
  | .length _, b, made, same, same', agrees, v, record
  | .shape _, b, made, same, same', agrees, v, record
  | .pattern _, b, made, same, same', agrees, v, record
  | .timezone _, b, made, same, same', agrees, v, record
  | .draft _, b, made, same, same', agrees, v, record
  | .object .., b, made, same, same', agrees, v, record
  | .listOf .., b, made, same, same', agrees, v, record
  | .objects .., b, made, same, same', agrees, v, record =>
    Rule.apply_kin_of_noSet (by simp [Rule.familyName]) made same same' agrees v record

theorem RuleSet.apply_kin : (s t : RuleSet) → Comparable s.pieces t.pieces → Rule.sameSet s t →
    Rule.sameSet t s → s.AgreesInKind t → ∀ v record,
      Kin Report.AreLike (s.apply v record) (t.apply v record)
  | .mk as x, .mk bs y, made, same, same', agrees, v, record => by
    rw [Rule.sameSet, Bool.and_eq_true] at same same'
    have inside {rules : List Rule} {override : Value} :
        rulePieces rules ⊆ (RuleSet.mk rules override).pieces := List.subset_cons_self ..
    rw [RuleSet.apply, RuleSet.apply]
    exact (firstReport_kin as bs (made.mono inside inside) same.1 same'.1 agrees v record).bind
      fun _ _ like => .pure (like.overridden same.2)

theorem firstReport_kin : (as bs : List Rule) → Comparable (rulePieces as) (rulePieces bs) →
    Rule.sameRules as bs → Rule.sameRules bs as → rulesAgreeInKind as bs → ∀ v record,
      Kin Report.AreLike (firstReport as v record) (firstReport bs v record)
  | [], [], _, _, _, _, v, record => Rule.kin_of_eq (.refl _)
  | [], _ :: _, _, same, _, _, _, _ | _ :: _, [], _, same, _, _, _, _ => by
    simp [Rule.sameRules] at same
  | a :: as, b :: bs, made, same, same', agrees, v, record => by
    rw [Rule.sameRules, Bool.and_eq_true] at same same'
    have head {a : Rule} {as : List Rule} : a.pieces ⊆ rulePieces (a :: as) :=
      List.subset_append_left ..
    have tail {a : Rule} {as : List Rule} : rulePieces as ⊆ rulePieces (a :: as) :=
      List.subset_append_right ..
    have first := Rule.apply_kin a b (made.mono head head) same.1 same'.1 agrees.1 v record
    have rest := firstReport_kin as bs (made.mono tail tail) same.2 same'.2 agrees.2 v record
    rw [firstReport, firstReport, Rule.seesAbsent_of_same same.1]
    split
    · exact rest
    · refine first.bind fun r r' like => ?_
      cases like with
      | none => exact rest
      | some like => exact .pure (.some like)

end

namespace Rule

/-! ### Rules with known parts -/

theorem all_same {m n : Nat} {as bs : List Rule} {x y : Value}
    (rules : List.Forall₂ (fun a b => a.same b) as bs) (override : x.same y) :
    (all m (.mk as x)).same (all n (.mk bs y)) := by
  have each : sameRules as bs := by
    induction rules with
    | nil => rfl
    | cons first _ ih => rw [sameRules, first, ih, Bool.and_true]
  rw [same, sameSet, each, override, Bool.and_true, Bool.or_true]

section Comparisons

variable {o p : Comparison.Operator} {x y v record : Value}

theorem comparison_same (word : o.toValue.isStr) (h : x.same y) :
    (comparison ⟨o, x⟩).same (comparison ⟨o, y⟩) := by
  simp [same, familyName, sameParts, parts, Part.same, Value.alike, Value.same_of_isStr word, h]

/-- Numbers count for what is numbered only. -/
theorem comparison_coherent (word : o.toValue.isStr) (steady : x.isSteady) :
    Coherent (comparison ⟨o, x⟩).pieces (comparison ⟨p, y⟩).pieces := by
  have text : o.toValue.isSteady := by
    cases value : o.toValue with
    | stream => rw [value] at word; cases word
    | _ => rw [value] at word; first | rfl | cases word
  have plain {v : Value} (steady : v.isSteady) (q : Part) : (Part.value v).Coherent q := by
    unfold Part.Coherent
    split
    · trivial
    · next stream =>
      cases stream
      cases steady
    · trivial
  constructor
  · intro r s one two part member other _
    cases List.mem_singleton.1 one
    rcases (by simpa [parts] using member : _ ∨ _) with rfl | rfl
    · exact plain text _
    · exact plain steady _
  · intro n s t one
    cases List.mem_singleton.1 one

theorem outcome_comparison (steady : x.isSteady) (v record : Value) (ledger : Ledger) :
    outcome ((comparison ⟨o, x⟩).apply v record) ledger =
      (Comparison.judge ⟨o, x⟩ v record).map reportOf := by
  have notStream : ∀ m xs, x ≠ .stream m xs := by
    rintro m xs rfl
    cases steady
  rw [apply, Comparison.apply_of_notStream notStream]
  exact outcome_map _ _

end Comparisons

/-- Two rules are the same, but do not report the same about a value of a record. -/
structure DifferOn (a b : Rule) (v record : Value) : Prop where
  proper : a.IsProper ∧ b.IsProper
  coherent : Coherent a.pieces b.pieces
  same : a.same b ∧ b.same a
  differ : ¬ Kindred Report.AreLike (outcome (a.apply v record) {}) (outcome (b.apply v record) {})

theorem DifferOn.of_judge {o : Comparison.Operator} {x y v record : Value}
    (word : o.toValue.isStr ∧ .ofValue o.toValue = o) (steady : x.isSteady ∧ y.isSteady)
    (same : x.same y ∧ y.same x)
    (differ : ¬ Kindred Report.AreLike ((Comparison.judge ⟨o, x⟩ v record).map reportOf)
      ((Comparison.judge ⟨o, y⟩ v record).map reportOf)) :
    DifferOn (comparison ⟨o, x⟩) (comparison ⟨o, y⟩) v record where
  proper := ⟨isProper_of_piece rfl word.2, isProper_of_piece rfl word.2⟩
  coherent := comparison_coherent word.1 steady.1
  same := ⟨comparison_same word.1 same.1, comparison_same word.1 same.2⟩
  differ := by rwa [outcome_comparison steady.1, outcome_comparison steady.2]

end Rule

/-- The keys of a mapping as bounds. -/
theorem Comparison.judge_keys (low high n : Int) :
    judge ⟨.within, .dict [(.int low, .null), (.int high, .null)]⟩ (.int n) .null =
      .ok (if high < n then some Code.tooHigh else if n < low then some Code.tooLow else none) := by
  simp only [judge, Value.isScalar, if_true, onScalar, onNumber, numberOf?, outside, boundsOf,
    Value.members?, List.map, above, below, boundOf, Value.number?, bind, Except.bind, pure,
    Except.pure, Number.int_lt_int, decide_eq_true_eq]
  by_cases above : high < n <;> simp [above]

namespace Value

variable {v w : Value} {m n : Int}

theorem int_same (n : Int) : (int n).same (.int n) := same_of_int rfl rfl

theorem tuple_cons_same {vs ws : List Value} (first : v.same w)
    (rest : (tuple vs).same (.tuple ws)) : (tuple (v :: vs)).same (.tuple (w :: ws)) := by
  obtain ⟨_, back, inside⟩ := tuple_of_same rest
  cases back
  exact same_iff.2 (.tuple (sameSequence_iff.2
    (.cons (alike_iff.2 (.inr first)) (sameSequence_iff.1 inside))))

theorem tuple_nil_same : (tuple []).same (.tuple []) :=
  same_iff.2 (.tuple (sameSequence_iff.2 .nil))

/-- The order of two numbers does not count in sets. -/
theorem pair_same {c d : Container} (own : c = .set ∨ c = .frozenset)
    (other : d = .set ∨ d = .frozenset) :
    (items c [.int m, .int n]).same (.items d [.int n, .int m]) := by
  refine same_iff.2 (.members own other rfl (sameMembers_iff.2 fun x member => ?_))
  refine ⟨x, by simpa [or_comm] using member, alike_iff.2 (.inr ?_)⟩
  rcases (by simpa using member : x = .int m ∨ x = .int n) with rfl | rfl <;> exact int_same _

/-- The order of two keys does not count in mappings. -/
theorem swapped_same :
    (dict [(.int m, .null), (.int n, .null)]).same (.dict [(.int n, .null), (.int m, .null)]) := by
  refine same_iff.2 (.dict rfl (sameEntries_iff.2 fun e member => ?_))
  refine ⟨e, by simpa [or_comm] using member, alike_iff.2 (.inr ?_), alike_iff.2 (.inr ?_)⟩
  · rcases (by simpa using member : e = (.int m, .null) ∨ e = (.int n, .null)) with rfl | rfl <;>
      exact int_same _
  · rcases (by simpa using member : e = (.int m, .null) ∨ e = (.int n, .null)) with rfl | rfl <;>
      exact same_iff.2 .null

end Value

namespace Rule

/-- Equal rules are interchangeable if their operands agree in kind: from every ledger, they report
the same about every value of every record or fail with errors of one class, and they take the same
from streams. -/
theorem interchangeable {a b : Rule} (proper : a.IsProper) (proper' : b.IsProper)
    (coherent : Coherent a.pieces b.pieces) (same : a.same b) (same' : b.same a)
    (agrees : a.AgreesInKind b) (v record : Value) (ledger : Ledger) :
    Kindred Report.AreLike (outcome (a.apply v record) ledger) (outcome (b.apply v record) ledger) ∧
      after (a.apply v record) ledger = after (b.apply v record) ledger :=
  apply_kin a b ⟨proper, proper', coherent⟩ same same' agrees v record ledger

/-- Bounds of other kinds, a set in another order, one validator, and equal overrides. -/
theorem interchangeable_bounds :
    let inner := Rule.object .null .null (.fields 3 [])
    let a := Rule.all 0 (.mk [.comparison ⟨.within, .tuple [.int 1, .int 5]⟩,
      .comparison ⟨.oneOf, .items .set [.int 3, .int 4]⟩, inner] (.int 1))
    let b := Rule.all 0 (.mk [.comparison ⟨.within, .tuple [.bool true, .int 5]⟩,
      .comparison ⟨.oneOf, .items .frozenset [.int 4, .int 3]⟩, inner] (.bool true))
    a.IsProper ∧ b.IsProper ∧ Coherent a.pieces b.pieces ∧ a.same b ∧ b.same a ∧
      a.AgreesInKind b ∧ ∀ v record ledger,
        Kindred Report.AreLike (outcome (a.apply v record) ledger)
          (outcome (b.apply v record) ledger) ∧
        after (a.apply v record) ledger = after (b.apply v record) ledger := by
  intro inner a b
  have proper : a.IsProper := by
    simp [a, inner, IsProper, pieces, RuleSet.pieces, rulePieces, Validator.pieces, fieldPieces,
      Piece.IsProper, Comparison.Operator.toValue, Comparison.Operator.ofValue]
  have proper' : b.IsProper := by
    simp [b, inner, IsProper, pieces, RuleSet.pieces, rulePieces, Validator.pieces, fieldPieces,
      Piece.IsProper, Comparison.Operator.toValue, Comparison.Operator.ofValue]
  have coherent : Coherent a.pieces b.pieces := by
    constructor
    · intro r s one two
      simp only [a, b, inner, pieces, RuleSet.pieces, rulePieces, Validator.pieces, fieldPieces,
        List.cons_append, List.nil_append, List.append_nil, List.mem_cons, List.not_mem_nil,
        Piece.rule.injEq, reduceCtorEq, or_false, false_or] at one two
      rcases one with rfl | rfl | rfl | rfl <;> rcases two with rfl | rfl | rfl | rfl <;>
        simp [parts, nestedParts, Part.Coherent, Comparison.Operator.toValue, NestedKind.toValue]
    · intro n s t one two
      simp_all [a, b, inner, pieces, RuleSet.pieces, rulePieces, Validator.pieces, fieldPieces]
  have kept : inner.same inner := by
    simp [inner, Rule.same, familyName, sameParts, parts, nestedParts, Part.same, Value.alike,
      NestedKind.toValue, Value.same]
  have one : (Value.int 1).same (.bool true) := Value.same_of_int rfl rfl
  have one' : (Value.bool true).same (.int 1) := Value.same_of_int rfl rfl
  have five := Value.tuple_cons_same (Value.int_same 5) Value.tuple_nil_same
  have same : a.same b := by
    refine all_same (.cons ?_ (.cons ?_ (.cons kept .nil))) one
    · exact comparison_same rfl (Value.tuple_cons_same one five)
    · exact comparison_same rfl (Value.pair_same (.inl rfl) (.inr rfl))
  have same' : b.same a := by
    refine all_same (.cons ?_ (.cons ?_ (.cons kept .nil))) one'
    · exact comparison_same rfl (Value.tuple_cons_same one' five)
    · exact comparison_same rfl (Value.pair_same (.inr rfl) (.inl rfl))
  have agree {c d : Container} {m n : Int} :
      (Value.items c [.int m, .int n]).MembersAgree (.items d [.int n, .int m]) := by
    rintro xs ys ⟨⟩ ⟨⟩ v member -
    exact ⟨v, by simpa [or_comm] using member, .inl rfl⟩
  have agrees : a.AgreesInKind b :=
    ⟨fun ordered => Bool.noConfusion ordered, ⟨agree, agree⟩, trivial, trivial⟩
  exact ⟨proper, proper', coherent, same, same', agrees,
    interchangeable proper proper' coherent same same' agrees⟩

/-- Comparing rules does not see the kind of an accepted value, the order of bounds, nor whether a
field can be looked up. -/
theorem same_but_different :
    DifferOn (.comparison ⟨.equalTo, .int 1⟩) (.comparison ⟨.equalTo, .bool true⟩) (.int 1) .null ∧
    DifferOn (.comparison ⟨.oneOf, .tuple [.int 1]⟩) (.comparison ⟨.oneOf, .tuple [.bool true]⟩)
      (.int 1) .null ∧
    DifferOn (.comparison ⟨.within, .dict [(.int 1, .null), (.int 5, .null)]⟩)
      (.comparison ⟨.within, .dict [(.int 5, .null), (.int 1, .null)]⟩) (.int 3) .null ∧
    DifferOn (.comparison ⟨.sameAs, .items .set []⟩) (.comparison ⟨.sameAs, .items .frozenset []⟩)
      (.int 1) (.dict []) := by
  have one : (Value.int 1).same (.bool true) := Value.same_of_int rfl rfl
  have one' : (Value.bool true).same (.int 1) := Value.same_of_int rfl rfl
  have strict : (Value.int 1).strictlySame (.int 1) :=
    Value.strictlySame_iff.2 ⟨rfl, Value.int_same 1⟩
  have nil := Value.tuple_nil_same
  have empty : Value.sameMembers [] [] := Value.sameMembers_iff.2 (by simp)
  refine ⟨.of_judge ⟨rfl, rfl⟩ ⟨rfl, rfl⟩ ⟨one, one'⟩ ?_,
    .of_judge ⟨rfl, rfl⟩ ⟨rfl, rfl⟩
      ⟨Value.tuple_cons_same one nil, Value.tuple_cons_same one' nil⟩ ?_,
    .of_judge ⟨rfl, rfl⟩ ⟨rfl, rfl⟩ ⟨Value.swapped_same, Value.swapped_same⟩ ?_,
    .of_judge ⟨rfl, rfl⟩ ⟨rfl, rfl⟩
      ⟨Value.same_iff.2 (.members (.inl rfl) (.inr rfl) rfl empty),
        Value.same_iff.2 (.members (.inr rfl) (.inl rfl) rfl empty)⟩ ?_⟩
  · have passed : Comparison.judge ⟨.equalTo, .int 1⟩ (.int 1) .null = .ok none := by
      simp [Comparison.judge, Comparison.onScalar, strict, Value.isScalar, Comparison.codeUnless]
    rw [passed]
    rintro ⟨⟩
  · have passed : Comparison.judge ⟨.oneOf, .tuple [.int 1]⟩ (.int 1) .null = .ok none := by
      simp [Comparison.judge, Comparison.onScalar, strict, Value.isScalar, Comparison.codeUnless,
        Comparison.isAccepted, Value.members?, Except.map]
    rw [passed]
    rintro ⟨⟩
  · rw [Comparison.judge_keys, Comparison.judge_keys]
    rintro ⟨⟩
  · rintro ⟨⟩

end Rule

end RecordCheck
