import RecordCheck.Proofs.Evaluation
import RecordCheck.Proofs.Still

/-!
# Rulesets put together

The fields of a validator are gone through one after the other, and as long as they do not take from
the same streams, none of them has an influence on what is reported about another. So a ruleset that
was put together from two, in whichever order their entries come, reports what both report, and
where one of them fails, it fails at the field that comes first.

## Main definitions

* `Interleaves`: a list that two others were put together to.
* `Act.StopsAt`: the entry at which going through a list fails.
* `Validator.TakesFrom`: the streams that the fields of a validator take from.

## Main statements

* `Act.RunsAs.of_interleaves`: what is interleaved runs as both parts do.
* `reports_eq`: the reports of a validator are those about its fields.
* `Registry.build_distributes`: what a validator for two rulesets put together reports.
-/
set_option autoImplicit false

namespace RecordCheck

open Act

/-! ## Lists put together -/

/-- The third list has the entries of both others, and those of each in their order. -/
inductive Interleaves {α : Type} : List α → List α → List α → Prop
  | nil : Interleaves [] [] []
  | left {x xs ys zs} : Interleaves xs ys zs → Interleaves (x :: xs) ys (x :: zs)
  | right {y xs ys zs} : Interleaves xs ys zs → Interleaves xs (y :: ys) (y :: zs)

namespace Interleaves

variable {α β : Type} {xs ys zs : List α}

theorem swap (h : Interleaves xs ys zs) : Interleaves ys xs zs := by
  induction h with
  | nil => exact .nil
  | left _ ih => exact .right ih
  | right _ ih => exact .left ih

theorem perm (h : Interleaves xs ys zs) : zs.Perm (xs ++ ys) := by
  induction h with
  | nil => exact .refl _
  | left _ ih => exact ih.cons _
  | right _ ih => exact (ih.cons _).trans List.perm_middle.symm

theorem sublist_left (h : Interleaves xs ys zs) : xs.Sublist zs := by
  induction h with
  | nil => exact .slnil
  | left _ ih => exact ih.cons_cons _
  | right _ ih => exact ih.cons _

theorem mem_right (h : Interleaves xs ys zs) {y : α} (member : y ∈ ys) : y ∈ zs :=
  h.perm.mem_iff.2 (List.mem_append_right _ member)

end Interleaves

/-! ## Going through lists -/

namespace Act

variable {α β : Type} {f : α → Act β} {xs ys zs : List α} {x z : α} {e : Error}
  {l l₁ l₂ : Ledger}

/-- The entries before an entry have been gone through, and this one fails. -/
def StopsAt (f : α → Act β) (xs : List α) (ledger : Ledger) (x : α) (e : Error) : Prop :=
  ∃ (before behind : List α) (ys : List β), xs = before ++ x :: behind ∧
    outcome (before.mapM f) ledger = .ok ys ∧
    outcome (f x) (after (before.mapM f) ledger) = .error e

theorem mapM_stops_iff : outcome (xs.mapM f) l = .error e ↔ ∃ x, StopsAt f xs l x e := by
  rw [mapM_error_iff]
  constructor
  · rintro ⟨before, x, behind, ys, split, done, failed⟩
    exact ⟨x, before, behind, ys, split, done, failed⟩
  · rintro ⟨x, before, behind, ys, split, done, failed⟩
    exact ⟨before, x, behind, ys, split, done, failed⟩

theorem StopsAt.mem (h : StopsAt f xs l x e) : x ∈ xs := by
  obtain ⟨before, behind, ys, rfl, -⟩ := h
  simp

theorem not_stopsAt_nil : ¬ StopsAt f [] l x e := fun h => by cases h.mem

/-- Going through a list stops at the head if it fails there, and otherwise where going through the
rest does. -/
theorem stopsAt_cons : StopsAt f (x :: xs) l z e ↔
    (z = x ∧ outcome (f x) l = .error e) ∨
      ∃ y, outcome (f x) l = .ok y ∧ StopsAt f xs (after (f x) l) z e := by
  constructor
  · rintro ⟨before, behind, ys, split, done, stopped⟩
    cases before with
    | nil =>
      obtain ⟨rfl, -⟩ := List.cons.inj split
      exact .inl ⟨rfl, stopped⟩
    | cons w before =>
      obtain ⟨rfl, rfl⟩ := List.cons.inj split
      rw [List.mapM_cons] at done
      obtain ⟨y, own, -⟩ := outcome_bind_ok.1 done
      rw [← List.mapM_cons] at done
      obtain ⟨more, rest, -⟩ := (outcome_mapM_cons_ok own).1 done
      rw [after_mapM_cons own] at stopped
      exact .inr ⟨y, own, before, behind, more, rfl, rest, stopped⟩
  · rintro (⟨rfl, failed⟩ | ⟨y, own, before, behind, more, rfl, done, stopped⟩)
    · exact ⟨[], xs, [], rfl, rfl, failed⟩
    · refine ⟨x :: before, behind, y :: more, rfl,
        (outcome_mapM_cons_ok own).2 ⟨more, done, rfl⟩, ?_⟩
      rwa [after_mapM_cons own]

theorem stopsAt_cons_of_error (failed : outcome (f x) l = .error e) {e' : Error} :
    StopsAt f (x :: xs) l z e' ↔ z = x ∧ e' = e := by
  rw [stopsAt_cons, failed]
  simp [eq_comm]

theorem stopsAt_cons_of_ok {y : β} (own : outcome (f x) l = .ok y) :
    StopsAt f (x :: xs) l z e ↔ StopsAt f xs (after (f x) l) z e := by
  rw [stopsAt_cons, own]
  simp

/-- A list that is gone through gives what two others give, in the order in which the lists were put
together, and where one of these fails, it fails at the entry that comes first. -/
structure RunsAs (f : α → Act β) (xs ys zs : List α) (l l₁ l₂ : Ledger) : Prop where
  returns : ∀ as bs, outcome (xs.mapM f) l₁ = .ok as → outcome (ys.mapM f) l₂ = .ok bs →
    ∃ cs, outcome (zs.mapM f) l = .ok cs ∧ Interleaves as bs cs
  stops : ∀ x e, StopsAt f xs l₁ x e ∨ StopsAt f ys l₂ x e →
    ∃ z e', StopsAt f zs l z e' ∧ (StopsAt f xs l₁ z e' ∨ StopsAt f ys l₂ z e') ∧
      ∀ w e'', StopsAt f xs l₁ w e'' ∨ StopsAt f ys l₂ w e'' → w = z ∨ [z, w].Sublist zs

/-- What is done in one region makes no difference to the agreement on another. -/
theorem Within.agreeOn_after {S T : Nat → Prop} {a : Act β} (own : Within S a)
    (apart : ∀ serial, S serial → ¬ T serial) (agree : l.AgreeOn T l₂) :
    (after a l).AgreeOn T l₂ :=
  fun serial inside =>
    (own.frame l serial fun h => apart serial h inside).trans (agree serial inside)

namespace RunsAs

theorem swap (h : RunsAs f xs ys zs l l₁ l₂) : RunsAs f ys xs zs l l₂ l₁ where
  returns as bs first second :=
    let ⟨cs, done, both⟩ := h.returns bs as second first
    ⟨cs, done, both.swap⟩
  stops x e stopped := by
    obtain ⟨z, e', own, found, first⟩ := h.stops x e stopped.symm
    exact ⟨z, e', own, found.symm, fun w e'' other => first w e'' other.symm⟩

/-- A head that fails comes before all that fail in the other list. -/
theorem cons_of_error (known : ∀ y ∈ ys, y ∈ zs) (failed : outcome (f x) l = .error e)
    (failed₁ : outcome (f x) l₁ = .error e) : RunsAs f (x :: xs) ys (x :: zs) l l₁ l₂ where
  returns as bs first := by
    rw [List.mapM_cons, outcome_bind, failed₁] at first
    cases first
  stops _ _ _ := by
    refine ⟨x, e, (stopsAt_cons_of_error failed).2 ⟨rfl, rfl⟩,
      .inl ((stopsAt_cons_of_error failed₁).2 ⟨rfl, rfl⟩), fun w e'' other => ?_⟩
    rcases other with own | other
    · exact .inl ((stopsAt_cons_of_error failed₁).1 own).1
    · exact .inr ((List.singleton_sublist.2 (known w other.mem)).cons_cons x)

theorem cons_of_ok {y : β} (done : outcome (f x) l = .ok y) (done₁ : outcome (f x) l₁ = .ok y)
    (rest : RunsAs f xs ys zs (after (f x) l) (after (f x) l₁) l₂) :
    RunsAs f (x :: xs) ys (x :: zs) l l₁ l₂ where
  returns as bs first second := by
    obtain ⟨more, others, rfl⟩ := (outcome_mapM_cons_ok done₁).1 first
    obtain ⟨cs, whole, both⟩ := rest.returns more bs others second
    exact ⟨y :: cs, (outcome_mapM_cons_ok done).2 ⟨cs, whole, rfl⟩, both.left⟩
  stops := by
    simp only [stopsAt_cons_of_ok done, stopsAt_cons_of_ok done₁]
    intro w e stopped
    obtain ⟨z, e', own, found, first⟩ := rest.stops w e stopped
    exact ⟨z, e', own, found, fun w e'' other => (first w e'' other).imp_right (.cons x)⟩

/-- The head of the first list is met with as much left as the first list leaves it. -/
theorem cons {S : Nat → Prop} (known : ∀ y ∈ ys, y ∈ zs) (own : Within S (f x))
    (agree : l.AgreeOn S l₁)
    (rest : RunsAs f xs ys zs (after (f x) l) (after (f x) l₁) l₂) :
    RunsAs f (x :: xs) ys (x :: zs) l l₁ l₂ := by
  cases done : outcome (f x) l₁ with
  | error e => exact cons_of_error known ((own.same agree).trans done) done
  | ok y => exact cons_of_ok ((own.same agree).trans done) done rest

/-- Lists that are gone through in regions which have nothing in common can be put together. -/
theorem of_interleaves {S T : Nat → Prop} (apart : ∀ serial, S serial → ¬ T serial)
    (whole : Interleaves xs ys zs) (first : ∀ x ∈ xs, Within S (f x))
    (second : ∀ y ∈ ys, Within T (f y)) (agree₁ : l.AgreeOn S l₁) (agree₂ : l.AgreeOn T l₂) :
    RunsAs f xs ys zs l l₁ l₂ := by
  -- The third run is abreast of the first in its region and of the second in the other one.
  induction whole generalizing l l₁ l₂ with
  | nil => exact ⟨by simp [Interleaves.nil], fun _ _ h => absurd h (by simp [not_stopsAt_nil])⟩
  | left rest ih =>
    obtain ⟨own, others⟩ := List.forall_mem_cons.1 first
    have agree₂' := own.agreeOn_after apart agree₂
    exact cons (fun _ => rest.mem_right) own agree₁
      (ih others second (own.keeps agree₁) agree₂')
  | right rest ih =>
    obtain ⟨own, others⟩ := List.forall_mem_cons.1 second
    have agree₁' := own.agreeOn_after (fun serial h h' => apart serial h' h) agree₁
    exact (cons (fun _ => rest.swap.mem_right) own agree₂
      (ih first others agree₁' (own.keeps agree₂)).swap).swap

end RunsAs

end Act

/-! ## Fields -/

/-- What is reported about a field, together with the field. -/
def fieldReport (record : Value) (entry : Value × RuleSet) : Act (Option (Value × Report)) := do
  let v ← record.field entry.1
  let report ← entry.2.apply v record
  return report.map fun r => (entry.1, r.collapse)

/-- The reports of a validator are those about its fields. -/
theorem reports_eq (entries : List (Value × RuleSet)) (record : Value) :
    reports entries record = List.reduceOption <$> entries.mapM (fieldReport record) := by
  induction entries with
  | nil => simp [reports, List.reduceOption]
  | cons entry entries ih =>
    obtain ⟨field, rules⟩ := entry
    simp only [reports, ih, List.mapM_cons, fieldReport, bind_assoc, pure_bind, map_bind,
      bind_map_left, map_pure]
    refine bind_congr fun v => bind_congr fun report => bind_congr fun parts => ?_
    cases report <;> rfl

/-- The fields that a validator has rules for itself. -/
def Validator.entries : Validator → List (Value × RuleSet)
  | .fields _ entries => entries
  | .switch .. => []

/-- A stream is found in the value of a field, or a rule for the field takes from it. -/
def FieldTakesFrom (record : Value) (entry : Value × RuleSet) (serial : Nat) : Prop :=
  (∃ v members, record.field? entry.1 = some v ∧ v.Reaches (.stream serial members)) ∨
    ∃ x ∈ entry.2.pieces, x.source? = some serial

/-- A stream is met at one of the fields of a validator. -/
def Validator.TakesFrom (v : Validator) (record : Value) (serial : Nat) : Prop :=
  ∃ entry ∈ v.entries, FieldTakesFrom record entry serial

/-- A validator fails at a field. -/
def Validator.StopsAt (v : Validator) (record : Value) (ledger : Ledger) (field : Value)
    (e : Error) : Prop :=
  ∃ rules, Act.StopsAt (fieldReport record) v.entries ledger (field, rules) e

theorem fieldReport_within {S : Nat → Prop} {record : Value} {entry : Value × RuleSet}
    (inside : ∀ serial, FieldTakesFrom record entry serial → S serial) :
    Within S (fieldReport record entry) := by
  refine (Within.lift _).bind_of (Value.field_reads record entry.1) fun v read => ?_
  refine .bind (entry.2.apply_within (fun x hx serial takes => ?_) v record ?_) fun _ => .pure _
  · exact inside serial (.inr ⟨x, hx, takes⟩)
  · exact fun serial members reached => inside serial (.inl ⟨v, members, read, reached⟩)

section Check

variable {entries : List (Value × RuleSet)} {record : Value} {ledger : Ledger} {n : Nat}

theorem Validator.check_fields (isRecord : record.isRecord) :
    (Validator.fields n entries).check record =
      List.reduceOption <$> entries.mapM (fieldReport record) := by
  rw [Validator.check, if_pos isRecord, reports_eq]

theorem Validator.check_append (es fs : List (Value × RuleSet)) (isRecord : record.isRecord) :
    (Validator.fields n (es ++ fs)).check record = do
      let first ← (Validator.fields n es).check record
      let rest ← (Validator.fields n fs).check record
      return first ++ rest := by
  simp only [Validator.check, if_pos isRecord, reports_append]

theorem Validator.check_stops_iff (isRecord : record.isRecord) {e : Error} :
    outcome ((Validator.fields n entries).check record) ledger = .error e ↔
      ∃ field, (Validator.fields n entries).StopsAt record ledger field e := by
  rw [Validator.check_fields isRecord, outcome_map_error, mapM_stops_iff]
  simp only [Validator.StopsAt, Validator.entries, Prod.exists]

end Check

/-- Where there are no streams, none is met at any field. -/
theorem Validator.not_takesFrom {v : Validator} {record : Value}
    (plain : ∀ x ∈ v.pieces, x.source? = none) (isRecord : record.isRecord)
    (steady : record.isSteady) (serial : Nat) : ¬ v.TakesFrom record serial := by
  rintro ⟨entry, member, ⟨w, members, read, reached⟩ | ⟨x, hx, takes⟩⟩
  · have := Value.Reaches.isSteady (.field isRecord read reached) steady
    simp [Value.isSteady] at this
  · cases v with
    | fields n entries =>
      rw [plain x (.tail _ (mem_fieldPieces.2 ⟨entry, member, hx⟩))] at takes
      cases takes
    | switch => cases member

/-! ## Validators -/

namespace Validator

variable {entries₁ entries₂ entries : List (Value × RuleSet)} {record : Value} {ledger : Ledger}
  {n n₁ n₂ : Nat} (whole : Interleaves entries₁ entries₂ entries) (isRecord : record.isRecord)
  (apart : ∀ serial, (fields n₁ entries₁).TakesFrom record serial →
    ¬ (fields n₂ entries₂).TakesFrom record serial)
include whole isRecord apart

omit isRecord in
theorem fieldReport_runsAs (ledger : Ledger) :
    RunsAs (fieldReport record) entries₁ entries₂ entries ledger ledger ledger :=
  .of_interleaves apart whole
    (fun entry member => fieldReport_within fun _ takes => ⟨entry, member, takes⟩)
    (fun entry member => fieldReport_within fun _ takes => ⟨entry, member, takes⟩)
    (fun _ _ => rfl) (fun _ _ => rfl)

/-- A validator for the fields of two others reports what these report, in the order of its own
fields. -/
theorem check_returns {parts₁ parts₂ : List (Value × Report)}
    (first : outcome ((fields n₁ entries₁).check record) ledger = .ok parts₁)
    (second : outcome ((fields n₂ entries₂).check record) ledger = .ok parts₂) :
    ∃ parts, outcome ((fields n entries).check record) ledger = .ok parts ∧
      parts.Perm (parts₁ ++ parts₂) ∧ (parts.map (·.1)).Sublist (entries.map (·.1)) := by
  have runs := fieldReport_runsAs whole apart ledger
  rw [check_fields isRecord] at first second
  obtain ⟨slots₁, own₁, rfl⟩ := outcome_map_ok.1 first
  obtain ⟨slots₂, own₂, rfl⟩ := outcome_map_ok.1 second
  obtain ⟨slots, own, both⟩ := runs.returns slots₁ slots₂ own₁ own₂
  have done : outcome ((fields n entries).check record) ledger = .ok slots.reduceOption := by
    rw [check_fields isRecord]
    exact outcome_map_ok.2 ⟨slots, own, rfl⟩
  refine ⟨_, done, ?_, ?_⟩
  · rw [← List.reduceOption_append]
    exact both.perm.filterMap id
  · rw [check, if_pos isRecord] at done
    exact (reports_keys entries record).of_ok done

/-- Where one of the two fails, the validator for all fields fails at the one that comes first. -/
theorem check_stops {field : Value} {e : Error}
    (stopped : (fields n₁ entries₁).StopsAt record ledger field e ∨
      (fields n₂ entries₂).StopsAt record ledger field e) :
    ∃ field e, outcome ((fields n entries).check record) ledger = .error e ∧
      ((fields n₁ entries₁).StopsAt record ledger field e ∨
        (fields n₂ entries₂).StopsAt record ledger field e) ∧
      ∀ other e', (fields n₁ entries₁).StopsAt record ledger other e' ∨
        (fields n₂ entries₂).StopsAt record ledger other e' →
          other = field ∨ [field, other].Sublist (entries.map (·.1)) := by
  have runs := fieldReport_runsAs whole apart ledger
  have either {key : Value} {e : Error} : (fields n₁ entries₁).StopsAt record ledger key e ∨
      (fields n₂ entries₂).StopsAt record ledger key e ↔
        ∃ rules, Act.StopsAt (fieldReport record) entries₁ ledger (key, rules) e ∨
          Act.StopsAt (fieldReport record) entries₂ ledger (key, rules) e := exists_or.symm
  simp only [either] at stopped ⊢
  obtain ⟨rules, stopped⟩ := stopped
  obtain ⟨⟨field, rules⟩, e, own, found, first⟩ := runs.stops _ _ stopped
  refine ⟨field, e, (check_stops_iff isRecord).2 ⟨field, rules, own⟩, ⟨rules, found⟩, ?_⟩
  rintro other e' ⟨rules', later⟩
  rcases first (other, rules') e' later with same | behind
  · exact .inl (congrArg Prod.fst same)
  · exact .inr (behind.map Prod.fst)

end Validator

namespace Registry

variable {g : Registry}

/-- The rules for the fields of a ruleset that was put together from two are those that are read
from both, as long as these have no stream in common. -/
theorem build_interleaves {first second whole : List (Value × Value)} {S T : Nat → Prop}
    {before : Ledger} {v₁ v₂ : Validator} (interleaved : Interleaves first second whole)
    (distinct : Keyed.IsDistinct whole) (apart : ∀ serial, S serial → ¬ T serial)
    (reads₁ : ∀ entry ∈ first, Within S (g.parse entry.2))
    (reads₂ : ∀ entry ∈ second, Within T (g.parse entry.2))
    (built₁ : outcome (g.build [] (.dict first)) before = .ok v₁)
    (built₂ : outcome (g.build [] (.dict second)) before = .ok v₂) :
    ∃ entries₁ entries₂ entries, v₁ = .fields 0 entries₁ ∧ v₂ = .fields 0 entries₂ ∧
      outcome (g.build [] (.dict whole)) before = .ok (.fields 0 entries) ∧
      Interleaves entries₁ entries₂ entries ∧ entries.map (·.1) = whole.map (·.1) := by
  let read (entry : Value × Value) : Act (Value × RuleSet) := do
    return (entry.1, ← g.parse entry.2)
  have build {source : List (Value × Value)} (own : Keyed.IsDistinct source) :
      g.build [] (.dict source) = Validator.fields 0 <$> source.mapM read := by
    rw [build_distinct own, buildWithin_dict]
    rfl
  have kept {source : List (Value × Value)} (sub : source.Sublist whole) :
      Keyed.IsDistinct source := List.Pairwise.sublist (sub.map _) distinct
  rw [build (kept interleaved.sublist_left)] at built₁
  rw [build (kept interleaved.swap.sublist_left)] at built₂
  obtain ⟨entries₁, own₁, rfl⟩ := outcome_map_ok.1 built₁
  obtain ⟨entries₂, own₂, rfl⟩ := outcome_map_ok.1 built₂
  have runs : RunsAs read first second whole before before before :=
    .of_interleaves apart interleaved
      (fun entry member => (reads₁ entry member).bind fun _ => .pure _)
      (fun entry member => (reads₂ entry member).bind fun _ => .pure _)
      (fun _ _ => rfl) (fun _ _ => rfl)
  obtain ⟨entries, own, both⟩ := runs.returns _ _ own₁ own₂
  have done : outcome (g.build [] (.dict whole)) before = .ok (.fields 0 entries) := by
    rw [build distinct]
    exact outcome_map_ok.2 ⟨entries, own, rfl⟩
  obtain ⟨_, same, keys⟩ := (build_keys distinct).of_ok done
  cases same
  exact ⟨entries₁, entries₂, entries, rfl, rfl, done, both, keys⟩

/-- Take a ruleset that was put together from two that can be read, in whichever order their entries
come, where no stream is met both in reading the one and in reading the other. It can be read as
well. About a record in which no stream is met both at a field of the one and at a field of the
other it reports what both report, in the order of its fields, and where one of them fails it fails
in the same way, at the field that comes first of those at which they fail. What is no record fails
all three in the same way. -/
theorem build_distributes {first second whole : List (Value × Value)} {S T : Nat → Prop}
    {before : Ledger} {v₁ v₂ : Validator} (interleaved : Interleaves first second whole)
    (distinct : Keyed.IsDistinct whole) (apart : ∀ serial, S serial → ¬ T serial)
    (reads₁ : ∀ entry ∈ first, Within S (g.parse entry.2))
    (reads₂ : ∀ entry ∈ second, Within T (g.parse entry.2))
    (built₁ : outcome (g.build [] (.dict first)) before = .ok v₁)
    (built₂ : outcome (g.build [] (.dict second)) before = .ok v₂) :
    ∃ v, outcome (g.build [] (.dict whole)) before = .ok v ∧ ∀ record ledger,
      (record.isRecord = false → ∀ w ∈ [v₁, v₂, v],
        outcome (w.check record) ledger = .error (.unvalidatable record.kind)) ∧
      (record.isRecord →
        (∀ serial, v₁.TakesFrom record serial → ¬ v₂.TakesFrom record serial) →
        (∀ parts₁ parts₂, outcome (v₁.check record) ledger = .ok parts₁ →
          outcome (v₂.check record) ledger = .ok parts₂ →
          ∃ parts, outcome (v.check record) ledger = .ok parts ∧ parts.Perm (parts₁ ++ parts₂) ∧
            (parts.map (·.1)).Sublist (whole.map (·.1))) ∧
        ((∃ e, outcome (v₁.check record) ledger = .error e ∨
            outcome (v₂.check record) ledger = .error e) →
          ∃ field e, outcome (v.check record) ledger = .error e ∧
            (v₁.StopsAt record ledger field e ∨ v₂.StopsAt record ledger field e) ∧
            ∀ other e', v₁.StopsAt record ledger other e' ∨ v₂.StopsAt record ledger other e' →
              other = field ∨ [field, other].Sublist (whole.map (·.1)))) := by
  obtain ⟨entries₁, entries₂, entries, rfl, rfl, built, both, keys⟩ :=
    build_interleaves interleaved distinct apart reads₁ reads₂ built₁ built₂
  refine ⟨_, built, fun record ledger => ⟨fun other w member => ?_, fun isRecord away => ⟨?_, ?_⟩⟩⟩
  · simp only [List.mem_cons, List.not_mem_nil, or_false] at member
    rcases member with rfl | rfl | rfl <;>
      rw [Validator.check, if_neg (by simp [other]), outcome_throw]
  · intro parts₁ parts₂
    rw [← keys]
    exact Validator.check_returns both isRecord away
  · rintro ⟨e, failed⟩
    rw [← keys]
    have stopped := failed.imp (Validator.check_stops_iff isRecord).1
      (Validator.check_stops_iff isRecord).1
    obtain ⟨field, stopped⟩ := exists_or.2 stopped
    exact Validator.check_stops both isRecord away stopped

/-- What is built from a ruleset meets no stream in a record without streams. -/
theorem not_takesFrom_of_build {ruleset record : Value} {before : Ledger} {v : Validator}
    (sourceless : g.IsSourceless) (built : outcome (g.build [] ruleset) before = .ok v)
    (isRecord : record.isRecord) (steady : record.isSteady) (serial : Nat) :
    ¬ v.TakesFrom record serial :=
  Validator.not_takesFrom ((build_upholds sourceless.upholds (by simp) trivial).of_ok built)
    isRecord steady serial

/-- Two fields that fail, in the order that is not the one of the rulesets. -/
theorem build_distributes_integers :
    let g : Registry := {}
    let entry (name : String) := (Value.str name, Value.str "integer")
    let record := Value.dict [(.str "a", .str "x"), (.str "b", .str "y")]
    let failed (name : String) := (Value.str name, Report.code (.str Code.notInteger))
    Interleaves [entry "a"] [entry "b"] [entry "b", entry "a"] ∧
    ∃ v parts, outcome (g.build [] (.dict [entry "b", entry "a"])) {} = .ok v ∧
      outcome (v.check record) {} = .ok parts ∧ parts.Perm [failed "a", failed "b"] ∧
      (parts.map (·.1)).Sublist [.str "b", .str "a"] := by
  intro g entry record failed
  let integer := RuleSet.mk [.comparison { operator := .integer }] .null
  have interleaved : Interleaves [entry "a"] [entry "b"] [entry "b", entry "a"] :=
    .right (.left .nil)
  have distinct : Keyed.IsDistinct [entry "b", entry "a"] := by
    simp [Keyed.IsDistinct, entry, Value.same]
  have sourceless : g.IsSourceless := fun name make found =>
    ((IsStandard.builtins (D := fun _ => True) "entry" true).find? found).elim
  have parsed : g.parse (.str "integer") = pure integer :=
    parseWithin_name (b := .integer) rfl rfl rfl
  have reads (name : String) : ∀ e ∈ [entry name], Act.IsStill (g.parse e.2) := by
    simp only [List.mem_singleton, forall_eq, entry, parsed]
    exact .pure _
  have built (name : String) : outcome (g.build [] (.dict [entry name])) {} =
      .ok (.fields 0 [(.str name, integer)]) := by
    rw [build_distinct (Keyed.isDistinct_single _), buildWithin_dict, outcome_map]
    simp only [List.mapM_cons, List.mapM_nil, entry]
    rw [show parseWithin g [] (g.deeper []) (.str "integer") = _ from parsed]
    rfl
  obtain ⟨v, whole, checks⟩ := build_distributes interleaved distinct (fun _ none => none.elim)
    (reads "a") (reads "b") (built "a") (built "b")
  have away (serial : Nat) :
      ¬ (Validator.fields 0 [(Value.str "a", integer)]).TakesFrom record serial :=
    not_takesFrom_of_build sourceless (built "a") rfl rfl serial
  obtain ⟨returns, -⟩ := (checks record {}).2 rfl fun serial takes => absurd takes (away serial)
  obtain ⟨parts, done, same, ordered⟩ := returns [failed "a"] [failed "b"] (by cbv) (by cbv)
  exact ⟨interleaved, v, parts, whole, done, same, ordered⟩

/-- The attributes of an object are also found behind one of them. So a stream in an attribute can
be met at two fields, and the second of them finds nothing in it. -/
theorem build_shared_stream :
    let g : Registry := {}
    let integers := Value.dict [(.str "list_of", .str "integer")]
    let first := [(Value.str "__dict__",
      Value.dict [(.str "nested_object", .dict [(.str "x", integers)])])]
    let second := [(Value.str "x", integers)]
    let record := Value.object [("x", .stream 1 [.str "a"])]
    let notInteger := Report.code (.str Code.notInteger)
    let parts₁ := [(Value.str "__dict__", Report.fields [(.str "x", notInteger)])]
    let parts₂ := [(Value.str "x", notInteger)]
    Interleaves first second (first ++ second) ∧ Keyed.IsDistinct (first ++ second) ∧
    ∃ v₁ v₂ v, outcome (g.build [] (.dict first)) {} = .ok v₁ ∧
      outcome (g.build [] (.dict second)) {} = .ok v₂ ∧
      outcome (g.build [] (.dict (first ++ second))) {} = .ok v ∧
      outcome (v₁.check record) {} = .ok parts₁ ∧ outcome (v₂.check record) {} = .ok parts₂ ∧
      outcome (v.check record) {} = .ok parts₁ ∧ ¬ parts₁.Perm (parts₁ ++ parts₂) := by
  intro g integers first second record notInteger parts₁ parts₂
  let integer := RuleSet.mk [.comparison { operator := .integer }] .null
  let list := RuleSet.mk [.listOf .null 0 "entry" integer] .null
  let attributes := RuleSet.mk [.object .null .null (.fields 0 [(.str "x", list)])] .null
  have inner : parseWithin g [] (g.deeper []) integers = pure list := by
    have read : callWithin g [] (g.deeper []) (.ok ⟨"list_of", .str "integer"⟩) =
        pure (.listOf .null 0 "entry" integer) := by
      have inside : Value.str "integer" ∈ (Call.mk "list_of" (.str "integer")).arguments :=
        List.mem_singleton_self _
      rw [callWithin, ruleWithin_draft (b := .listOf) (d := ⟨.list, .str "integer", .null, .null⟩)
        rfl rfl inside, finishWithin, parseWithin_name (b := .integer) rfl rfl rfl]
      rfl
    rw [parseWithin_eq, Description.calls_single]
    simp [read, list]
  have outer : parseWithin g [] (g.deeper [])
      (.dict [(.str "nested_object", .dict [(.str "x", integers)])]) = pure attributes := by
    let call := Call.mk "nested_object" (.dict [(.str "x", integers)])
    have read : callWithin g [] (g.deeper []) (.ok call) =
        pure (.object .null .null (.fields 0 [(.str "x", list)])) := by
      have made : Builtin.nestedObject.make call.arguments = _ := Builtin.make_nestedObject rfl
      have inside : Value.dict [(.str "x", integers)] ∈ call.arguments :=
        List.mem_singleton_self _
      rw [callWithin, ruleWithin_draft (b := .nestedObject) rfl made inside, finishWithin]
      simp [call, buildWithin_dict, inner]
    rw [parseWithin_eq, Description.calls_single]
    simp [call, read, attributes]
  have distinct : Keyed.IsDistinct (first ++ second) := by
    simp [Keyed.IsDistinct, first, second, Value.same]
  have built {source : List (Value × Value)} (own : Keyed.IsDistinct source) :
      g.build [] (.dict source) = Validator.fields 0 <$> source.mapM fun entry => do
        return (entry.1, ← parseWithin g [] (g.deeper []) entry.2) := by
    rw [build_distinct own, buildWithin_dict]
  let v₁ := Validator.fields 0 [(.str "__dict__", attributes)]
  let v₂ := Validator.fields 0 [(.str "x", list)]
  have done₁ : outcome (v₁.check record) {} = .ok parts₁ := by cbv
  have done₂ : outcome (v₂.check record) {} = .ok parts₂ := rfl
  have taken : after (v₁.check record) {} = { taken := [(1, 1)] } := by cbv
  have empty : outcome (v₂.check record) { taken := [(1, 1)] } = .ok [] := rfl
  refine ⟨.left (.right .nil), distinct, v₁, v₂,
    .fields 0 [(.str "__dict__", attributes), (.str "x", list)], ?_, ?_, ?_, done₁, done₂, ?_, ?_⟩
  · simp [built (Keyed.isDistinct_single _), first, outer, v₁]
  · simp [built (Keyed.isDistinct_single _), second, inner, v₂]
  · rw [built distinct]
    simp [first, second, outer, inner]
  · refine (congrArg (outcome · {}) (Validator.check_append [_] [_] rfl)).trans ?_
    rw [outcome_bind, done₁]
    dsimp only
    rw [outcome_bind, taken, empty]
    rfl
  · exact fun same => by simpa [parts₁, parts₂] using same.length_eq

end Registry

end RecordCheck
