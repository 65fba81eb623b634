import RecordCheck.Proofs.Lasting
import RecordCheck.Proofs.Totality
import RecordCheck.Proofs.Unvalidatable

/-!
# What is taken from streams

Applying rules takes entries from the streams in a value and from those that comparisons and lengths
were given for operands, and from no others. So what has been taken from other streams makes no
difference to what is reported, and stays as it is.

## Main definitions

* `Act.Within`: an action that neither looks at streams outside of a region nor takes from them.
* `Piece.source?`: the stream that a piece of a rule takes from.
* `Value.StreamsIn`: all streams that can be reached from a value lie in a region.

## Main statements

* `RuleSet.apply_within`, `Validator.check_within`: rules stay within the streams of the value and
  of their own pieces.
-/
set_option autoImplicit false

namespace RecordCheck

open Act

variable {S : Nat → Prop}

/-! ## Actions within a region -/

/-- As much has been taken from each stream of a region. -/
def Ledger.AgreeOn (S : Nat → Prop) (l m : Ledger) : Prop :=
  ∀ serial, S serial → l.takenFrom serial = m.takenFrom serial

/-- What an action gives depends on the streams of a region only, and so does what it takes from
them; it takes nothing from other streams. -/
structure Act.Within {α : Type} (S : Nat → Prop) (a : Act α) : Prop where
  same : ∀ {l m : Ledger}, l.AgreeOn S m → outcome a l = outcome a m
  keeps : ∀ {l m : Ledger}, l.AgreeOn S m → (after a l).AgreeOn S (after a m)
  frame : ∀ (l : Ledger) (serial : Nat), ¬ S serial →
    (after a l).takenFrom serial = l.takenFrom serial

namespace Act.Within

variable {α β : Type} {a : Act α}

theorem lift (r : Except Error α) : Within S (liftM r : Act α) :=
  ⟨fun _ => rfl, id, fun _ _ _ => rfl⟩

theorem pure (x : α) : Within S (Pure.pure x : Act α) := lift (.ok x)

theorem throw (e : Error) : Within S (MonadExcept.throw e : Act α) := lift (.error e)

/-- The second step may count on what the first ensures. -/
theorem bind_of {P : α → Prop} {f : α → Act β} (first : Within S a) (ensured : Yields a P)
    (next : ∀ x, P x → Within S (f x)) : Within S (a >>= f) := by
  refine ⟨fun {l m} agree => ?_, fun {l m} agree => ?_, fun l serial outside => ?_⟩
  · rw [outcome_bind, outcome_bind, first.same agree]
    cases made : outcome a m with
    | ok x => exact (next x (ensured.of_ok made)).same (first.keeps agree)
    | error e => rfl
  · rw [after_bind, after_bind, first.same agree]
    cases made : outcome a m with
    | ok x => exact (next x (ensured.of_ok made)).keeps (first.keeps agree)
    | error e => exact first.keeps agree
  · rw [after_bind]
    cases made : outcome a l with
    | ok x =>
      have rest := (next x (ensured.of_ok made)).frame (after a l) serial outside
      exact rest.trans (first.frame l serial outside)
    | error e => exact first.frame l serial outside

theorem bind {f : α → Act β} (first : Within S a) (next : ∀ x, Within S (f x)) :
    Within S (a >>= f) :=
  first.bind_of (yields_any a) fun x _ => next x

theorem map (f : α → β) (h : Within S a) : Within S (f <$> a) := by
  rw [← bind_pure_comp]
  exact h.bind fun x => pure (f x)

theorem mapM {xs : List α} {f : α → Act β} (each : ∀ x ∈ xs, Within S (f x)) :
    Within S (xs.mapM f) := by
  induction xs with
  | nil => exact pure []
  | cons x xs ih =>
    rw [List.mapM_cons]
    exact (each x (by simp)).bind fun y => (ih fun x h => each x (by simp [h])).bind fun _ => pure _

/-- Entries are taken from a stream of the region. -/
theorem taking {serial : Nat} (inside : S serial) (entries : List Value) (count : List Value → Nat)
    {f : List Value → Act α} (next : ∀ left, Within S (f left)) : Within S (do
      let left ← Value.left serial entries
      modify fun ledger => ledger.take serial (count left)
      f left) := by
  have left : Within S (Value.left serial entries) := by
    refine ⟨fun {l m} agree => ?_, id, fun _ _ _ => rfl⟩
    change Except.ok (entries.drop (l.takenFrom serial)) = .ok (entries.drop (m.takenFrom serial))
    rw [agree serial inside]
  have take (n : Nat) : Within S (modify fun ledger => ledger.take serial n : Act PUnit) := by
    refine ⟨fun _ => rfl, fun {l m} agree other h => ?_, fun l other outside => ?_⟩
    · change (l.take serial n).takenFrom other = (m.take serial n).takenFrom other
      rw [Ledger.takenFrom_take, Ledger.takenFrom_take, agree other h, agree serial inside]
    · change (l.take serial n).takenFrom other = l.takenFrom other
      rw [Ledger.takenFrom_take, if_neg (by rintro rfl; exact outside inside)]
  exact left.bind fun rest => (take (count rest)).bind fun _ => next rest

end Act.Within

/-! ## Streams in values -/

namespace Value

/-- Every stream that can be reached from a value lies in a region. -/
def StreamsIn (S : Nat → Prop) (v : Value) : Prop :=
  ∀ serial entries, v.Reaches (.stream serial entries) → S serial

variable {v w record name : Value}

theorem StreamsIn.entry (h : v.StreamsIn S) (member : w ∈ v.listed) : w.StreamsIn S :=
  fun serial entries reached => h serial entries (.entry member reached)

theorem StreamsIn.field (h : record.StreamsIn S) (isRecord : record.isRecord)
    (read : record.field? name = some v) : v.StreamsIn S :=
  fun serial entries reached => h serial entries (.field isRecord read reached)

theorem entries_within (h : v.StreamsIn S) : Within S v.entries := by
  unfold entries
  split
  · refine .map some ?_
    cases v with
    | stream serial members =>
      have inside := h serial members (.refl _)
      exact .taking inside members List.length fun _ => .pure _
    | _ => exact .lift _
  · exact .pure none

/-- A list is gone through with what its streams and the rules for its entries take. -/
theorem eachEntry_within {ask : Value → Act (Option Report)} (h : v.StreamsIn S)
    (each : ∀ entry, entry.StreamsIn S → Within S (ask entry)) : Within S (v.eachEntry ask) := by
  refine (entries_within h).bind_of v.entries_listed.yields fun found listed => ?_
  cases found with
  | none => exact .pure _
  | some entries =>
    exact .map _ (.mapM fun entry member => each entry (h.entry (listed entries rfl member)))

end Value

theorem Value.field_reads (record name : Value) :
    Yields (liftM (record.field name) : Act Value) fun v => record.field? name = some v := by
  refine .lift (fun v read => ?_) fun _ _ => trivial
  unfold field at read
  split at read
  · next found =>
    cases read
    exact found
  · cases read

/-! ## Streams in rules -/

/-- The stream that a comparison takes from. -/
def Comparison.source? (c : Comparison) : Option Nat :=
  match c.operator, c.operand with
  | .oneOf, .stream serial _ | .within, .stream serial _ => some serial
  | _, _ => none

/-- The stream that a rule about lengths takes from. -/
def Length.source? (l : Length) : Option Nat :=
  match l.operator, l.bounds with
  | .between, .stream serial _ => some serial
  | _, _ => none

/-- The stream that a piece of a rule takes from, as far as that does not depend on the pieces in
it. -/
def Piece.source? : Piece → Option Nat
  | .rule (.comparison c) => c.source?
  | .rule (.length l) => l.source?
  | _ => none

theorem Comparison.apply_within {c : Comparison} (inside : ∀ serial ∈ c.source?, S serial)
    (v record : Value) : Within S (c.apply v record) := by
  unfold source? at inside
  unfold apply
  split
  · next operator operand =>
    rw [operator, operand] at inside
    exact .taking (inside _ rfl) _ _ fun _ => .lift _
  · next operator operand =>
    rw [operator, operand] at inside
    exact .taking (inside _ rfl) _ _ fun _ => .lift _
  · exact .lift _

theorem Length.apply_within {l : Length} (inside : ∀ serial ∈ l.source?, S serial) (v : Value) :
    Within S (l.apply v) := by
  unfold source? at inside
  unfold apply
  split
  · next operator bounds =>
    rw [operator, bounds] at inside
    exact .taking (inside _ rfl) _ _ fun _ => .lift _
  · exact .lift _

/-! ## Whole trees of rules -/

/-- The streams that some pieces take from lie in a region. -/
def SourcesIn (S : Nat → Prop) (pieces : List Piece) : Prop :=
  ∀ x ∈ pieces, ∀ serial ∈ x.source?, S serial

theorem SourcesIn.mono {pieces more : List Piece} (h : SourcesIn S more) (sub : pieces ⊆ more) :
    SourcesIn S pieces :=
  fun x hx => h x (sub hx)

theorem SourcesIn.halves {first others : List Piece} (h : SourcesIn S (first ++ others)) :
    SourcesIn S first ∧ SourcesIn S others :=
  ⟨h.mono (List.subset_append_left _ _), h.mono (List.subset_append_right _ _)⟩

mutual

/-- A rule takes from the streams in the value and from those of its pieces, whatever there is in
the rest of the record. -/
theorem Rule.apply_within : (r : Rule) → SourcesIn S r.pieces → (v record : Value) →
    v.StreamsIn S → Within S (r.apply v record)
  | .blank test, _, _, _, _ => .bind (.lift _) fun _ => .pure _
  | .comparison c, h, v, record, _ =>
    .bind (Comparison.apply_within (h _ (Rule.self_mem_pieces (.comparison c))) v record)
      fun _ => .pure _
  | .length l, h, v, _, _ =>
    .bind (Length.apply_within (h _ (Rule.self_mem_pieces (.length l))) v) fun _ => .pure _
  | .shape test, _, _, _, _ => .bind (.lift _) fun _ => .pure _
  | .pattern m, _, _, _, _ => .bind (.lift _) fun _ => .pure _
  | .timezone _, _, _, _, _ => .pure _
  | .draft _, _, _, _, _ => .throw _
  | .object field entryField validator, h, v, _, streams => by
    rw [Rule.apply]
    split
    · exact .map _ (Validator.check_within validator (h.mono (List.subset_cons_self _ _)) v streams)
    · exact .pure _
  | .listOf field serial entryField rules, h, v, record, streams => by
    rw [Rule.apply_listOf]
    exact Value.eachEntry_within streams fun entry inside =>
      .map _ (RuleSet.apply_within rules (h.mono (List.subset_cons_self _ _)) entry _ inside)
  | .objects field entryField validator, h, v, record, streams => by
    rw [Rule.apply_objects]
    refine Value.eachEntry_within streams fun entry inside => ?_
    -- Every error is handed on but the one about the entry itself.
    rw [slotOf_check, Validator.slot]
    split
    · exact .map _ (Validator.check_within validator (h.mono (List.subset_cons_self _ _)) entry
        inside)
    · exact .pure _
  | .all serial rules, h, v, record, streams =>
    RuleSet.apply_within rules (h.mono (List.subset_cons_self _ _)) v record streams

theorem RuleSet.apply_within : (s : RuleSet) → SourcesIn S s.pieces → (v record : Value) →
    v.StreamsIn S → Within S (s.apply v record)
  | .mk rules _, h, v, record, streams =>
    .bind (firstReport_within rules (h.mono (List.subset_cons_self _ _)) v record streams)
      fun _ => .pure _

theorem firstReport_within : (rules : List Rule) → SourcesIn S (rulePieces rules) →
    (v record : Value) → v.StreamsIn S → Within S (firstReport rules v record)
  | [], _, _, _, _ => .pure none
  | rule :: rules, h, v, record, streams => by
    have rest := firstReport_within rules h.halves.2 v record streams
    rw [firstReport]
    split
    · exact rest
    · refine .bind (Rule.apply_within rule h.halves.1 v record streams) fun found => ?_
      cases found with
      | some report => exact .pure _
      | none => exact rest

theorem Validator.check_within : (validator : Validator) → SourcesIn S validator.pieces →
    (record : Value) → record.StreamsIn S → Within S (validator.check record)
  | .fields _ entries, h, record, streams => by
    rw [Validator.check]
    split
    · next isRecord =>
      exact reports_within entries (h.mono (List.subset_cons_self _ _)) record isRecord streams
    · exact .throw _
  | .switch _ field cases, h, record, streams => by
    rw [Validator.check]
    split
    · refine .bind (.lift _) fun v => ?_
      dsimp only
      split
      · exact checkCase_within cases (h.mono (List.subset_cons_self _ _)) v record _ streams
      · exact .throw _
    · exact .throw _

theorem checkCase_within : (cases : List (Value × Validator)) → SourcesIn S (casePieces cases) →
    (v record : Value) → (missing : Error) → record.StreamsIn S →
    Within S (checkCase cases v record missing)
  | [], _, _, _, _, _ => .throw _
  | (_, validator) :: cases, h, v, record, missing, streams => by
    rw [checkCase]
    split
    · exact Validator.check_within validator h.halves.1 record streams
    · exact checkCase_within cases h.halves.2 v record missing streams

theorem reports_within : (entries : List (Value × RuleSet)) → SourcesIn S (fieldPieces entries) →
    (record : Value) → record.isRecord → record.StreamsIn S → Within S (reports entries record)
  | [], _, _, _, _ => .pure []
  | (field, rules) :: entries, h, record, isRecord, streams => by
    rw [reports]
    refine (Within.lift _).bind_of (Value.field_reads record field) fun v read => ?_
    have own := RuleSet.apply_within rules h.halves.1 v record (streams.field isRecord read)
    have rest := reports_within entries h.halves.2 record isRecord streams
    exact own.bind fun _ => rest.bind fun _ => .pure _

end

end RecordCheck
