import RecordCheck.Proofs.Evaluation
import RecordCheck.Proofs.Slots
import RecordCheck.Proofs.Still

/-!
# Entries on their own

A rule for lists checks one entry after the other. As long as no stream is there to run out, what it
reports about an entry depends on nothing but the entry: the slots of a list are those of its parts,
and entries in another order have the same slots in that order.

## Main definitions

* `Registry.HasRead`: the rules that a registry has read from descriptions and rulesets.
* `Rule.payload`, `Rule.slots`: what a rule for lists reports about a list, and the slot that this
  gives each entry.

## Main statements

* `Rule.slots_ok_iff`: the slots of a list are those of its entries.
* `Rule.slots_apart`: a rule for lists treats entries independently.
-/
set_option autoImplicit false

namespace RecordCheck

open Act

/-- Pairs of which the first parts are put in another order keep together. -/
theorem exists_partners_of_perm {α β : Type} {R : α → β → Prop} {xs zs : List α} {ys : List β}
    (same : xs.Perm zs) (paired : List.Forall₂ R xs ys) :
    ∃ ws, List.Forall₂ R zs ws ∧ (xs.zip ys).Perm (zs.zip ws) := by
  induction same generalizing ys with
  | nil => exact ⟨ys, paired, .refl _⟩
  | cons x _ ih =>
    obtain ⟨y, rest, first, others, rfl⟩ := List.forall₂_cons_left_iff.1 paired
    obtain ⟨ws, paired, same⟩ := ih others
    exact ⟨y :: ws, .cons first paired, same.cons _⟩
  | swap x z xs =>
    obtain ⟨y, _, first, others, rfl⟩ := List.forall₂_cons_left_iff.1 paired
    obtain ⟨y', rest, second, behind, rfl⟩ := List.forall₂_cons_left_iff.1 others
    exact ⟨y' :: y :: rest, .cons second (.cons first behind), .swap ..⟩
  | trans _ _ one two =>
    obtain ⟨ws, paired, same⟩ := one paired
    obtain ⟨us, paired, again⟩ := two paired
    exact ⟨us, paired, same.trans again⟩

/-- The slots of a list, of which the payload of a rule for lists tells nothing where all entries
pass. -/
def Report.slotsFor (count : Nat) : Option Report → List (Option Report)
  | some (.slots own) => own
  | _ => List.replicate count none

theorem Report.ofSlots_eq_none {slots : List (Option Report)} :
    ofSlots slots = none ↔ ∀ slot ∈ slots, slot = none := by
  simp [ofSlots]

theorem Report.slotsFor_ofSlots (slots : List (Option Report)) :
    slotsFor slots.length (ofSlots slots) = slots := by
  by_cases passed : ∀ slot ∈ slots, slot = none
  · rw [ofSlots_eq_none.2 passed]
    exact (List.eq_replicate_of_mem passed).symm
  · obtain ⟨_ | r, member, filled⟩ : ∃ slot ∈ slots, slot ≠ none := by simpa using passed
    · exact absurd rfl filled
    · rw [ofSlots, if_pos (List.any_eq_true.2 ⟨some r, member, rfl⟩), slotsFor]

/-- A rule that is part of what a registry has read: of a description, a finished draft, or a
validator that was built from a ruleset. -/
inductive Registry.HasRead (g : Registry) (rule : Rule) : Prop
  | parsed {d before s} : outcome (g.parse d) before = .ok s → .rule rule ∈ s.pieces →
    HasRead g rule
  | finished {d before r} : outcome (g.finish d) before = .ok r → .rule rule ∈ r.pieces →
    HasRead g rule
  | built {ruleset before v} : outcome (g.build [] ruleset) before = .ok v →
    .rule rule ∈ v.pieces → HasRead g rule

theorem Registry.HasRead.source? {g : Registry} {rule : Rule} (read : g.HasRead rule)
    (sourceless : g.IsSourceless) : ∀ x ∈ rule.pieces, x.source? = none := by
  have upholds := sourceless.upholds
  intro x hx
  cases read with
  | parsed made inside =>
    exact ((parse_upholds upholds trivial).of_ok made).2 x (RuleSet.pieces_subset _ inside hx)
  | finished made inside =>
    exact (finish_upholds upholds trivial).of_ok made x (Rule.pieces_subset _ inside hx)
  | built made inside =>
    exact (build_upholds upholds (by simp) trivial).of_ok made x
      (Validator.pieces_subset _ inside hx)

namespace Rule

/-- What a rule reports about a list. -/
def payload (rule : Rule) (entries : List Value) : Except Error (Option Report) :=
  outcome (rule.apply (.list entries) .null) {}

/-- The slots of the payload, or an empty one for each entry where there is no payload. -/
def slots (rule : Rule) (entries : List Value) : Except Error (List (Option Report)) :=
  (rule.payload entries).map (Report.slotsFor entries.length)

section Apart

variable {rule : Rule} (isList : rule.isList) (sourceless : ∀ x ∈ rule.pieces, x.source? = none)
  {entries : List Value} {sx : List (Option Report)}

include sourceless in
theorem entryReport_still {entry : Value} (steady : entry.isSteady) :
    IsStill (rule.entryReport entry) := by
  have sources : SourcesIn (fun _ => False) rule.pieces := fun x hx serial taken => by
    rw [sourceless x hx] at taken
    cases taken
  have streams := Value.streamsIn_of_isSteady (S := fun _ => False) steady
  cases rule with
  | listOf field serial entryField rules =>
    have own : SourcesIn (fun _ => False) rules.pieces := sources.mono (List.subset_cons_self _ _)
    exact .map _ (rules.apply_within own entry _ streams)
  | objects field entryField validator =>
    have own : SourcesIn (fun _ => False) validator.pieces :=
      sources.mono (List.subset_cons_self _ _)
    rw [entryReport, slotOf_check, Validator.slot]
    split
    · exact .map _ (validator.check_within own entry streams)
    · exact .pure _
  | _ => exact .pure _

section Slots

include isList

theorem payload_eq (entries : List Value) : rule.payload entries =
    (outcome (entries.mapM rule.entryReport) {}).map Report.ofSlots := by
  rw [payload, apply_list isList, outcome_map]

/-- The slots are those that the payload was made of. -/
theorem slots_eq (entries : List Value) :
    rule.slots entries = outcome (entries.mapM rule.entryReport) {} := by
  rw [slots, payload_eq isList]
  cases made : outcome (entries.mapM rule.entryReport) {} with
  | error e => rfl
  | ok found =>
    have length : found.length = entries.length := (mapM_ok made).1
    simp [Except.map, ← length, Report.slotsFor_ofSlots]

theorem payload_of_slots (own : rule.slots entries = .ok sx) :
    rule.payload entries = .ok (Report.ofSlots sx) := by
  rw [payload_eq isList, ← slots_eq isList, own]
  rfl

end Slots

include isList sourceless

/-- Neither the rest of the record nor the kind of the list nor what has been taken from streams
makes a difference. -/
theorem outcome_apply_list (steady : ∀ z ∈ entries, z.isSteady) (container : Container)
    (record : Value) (ledger : Ledger) :
    outcome (rule.apply (.items container entries) record) ledger = rule.payload entries := by
  have apart : IsStill (entries.mapM rule.entryReport) :=
    .mapM fun z member => entryReport_still sourceless (steady z member)
  rw [apply_list isList, outcome_map, payload_eq isList, apart.outcome_eq ledger {}]

/-- The slots of a list are those of its entries. -/
theorem slots_ok_iff (steady : ∀ z ∈ entries, z.isSteady) : rule.slots entries = .ok sx ↔
    List.Forall₂ (fun z slot => outcome (rule.entryReport z) {} = .ok slot) entries sx := by
  rw [slots_eq isList]
  exact IsStill.mapM_ok_iff fun z member => entryReport_still sourceless (steady z member)

theorem slots_singleton {entry : Value} {slot : Option Report} (steady : entry.isSteady)
    (own : outcome (rule.entryReport entry) {} = .ok slot) : rule.slots [entry] = .ok [slot] :=
  (slots_ok_iff isList sourceless (by simpa using steady)).2 (.cons own .nil)

theorem passes_iff_of_slot {entry : Value} {slot : Option Report} (steady : entry.isSteady)
    (own : outcome (rule.entryReport entry) {} = .ok slot) (ledger : Ledger) :
    rule.Passes entry ledger ↔ slot = none := by
  rw [passes_iff isList, (entryReport_still sourceless steady).outcome_eq ledger {}, own]
  simp

/-- Each entry has the slot that it has alone. -/
theorem slots_at (steady : ∀ z ∈ entries, z.isSteady) (own : rule.slots entries = .ok sx) {i : Nat}
    {entry : Value} (at_i : entries[i]? = some entry) :
    ∃ slot, sx[i]? = some slot ∧ outcome (rule.entryReport entry) {} = .ok slot := by
  rw [slots_eq isList] at own
  obtain ⟨slot, found, reported⟩ := (mapM_ok own).2 i entry at_i
  refine ⟨slot, found, ?_⟩
  rw [← reported]
  exact (entryReport_still sourceless (steady entry (List.mem_of_getElem? at_i))).outcome_eq _ _

end Apart

/-- A rule for lists treats entries independently. The slots of a list without streams are those of
its parts, each entry has the slot that it has alone, which is empty just when the rules for the
entries pass it, entries in another order take their slots with them, and there is no payload when
all entries pass. -/
theorem slots_apart {g : Registry} {rule : Rule} (sourceless : g.IsSourceless)
    (read : g.HasRead rule) (isList : rule.isList) :
    (∀ zs : List Value, (∀ z ∈ zs, z.isSteady) → ∀ container record ledger,
      outcome (rule.apply (.items container zs) record) ledger = rule.payload zs) ∧
    (∀ (xs ys : List Value) (sx sy : List (Option Report)), (∀ x ∈ xs, x.isSteady) →
      (∀ y ∈ ys, y.isSteady) → rule.slots xs = .ok sx → rule.slots ys = .ok sy →
        rule.slots (xs ++ ys) = .ok (sx ++ sy)) ∧
    ∀ (xs : List Value) (sx : List (Option Report)), (∀ x ∈ xs, x.isSteady) →
      rule.slots xs = .ok sx →
        sx.length = xs.length ∧
        (∀ (i : Nat) (x : Value), xs[i]? = some x → ∃ slot, sx[i]? = some slot ∧
          rule.slots [x] = .ok [slot] ∧ ∀ ledger, (rule.Passes x ledger ↔ slot = none)) ∧
        (∀ zs, xs.Perm zs → ∃ sz, rule.slots zs = .ok sz ∧ (xs.zip sx).Perm (zs.zip sz)) ∧
        rule.payload xs = .ok (Report.ofSlots sx) ∧
        (rule.payload xs = .ok none ↔ ∀ x ∈ xs, ∀ ledger, rule.Passes x ledger) := by
  have plain := read.source? sourceless
  have each {zs : List Value} {sz : List (Option Report)} (steady : ∀ z ∈ zs, z.isSteady) :
      rule.slots zs = .ok sz ↔
        List.Forall₂ (fun z slot => outcome (rule.entryReport z) {} = .ok slot) zs sz :=
    slots_ok_iff isList plain steady
  refine ⟨fun zs steady => outcome_apply_list isList plain steady,
    fun xs ys sx sy steadyX steadyY slotsX slotsY => ?_, fun xs sx steady slots => ?_⟩
  · have steady : ∀ z ∈ xs ++ ys, z.isSteady := List.forall_mem_append.2 ⟨steadyX, steadyY⟩
    exact (each steady).2 (List.rel_append ((each steadyX).1 slotsX) ((each steadyY).1 slotsY))
  have own := (each steady).1 slots
  have payload := payload_of_slots isList slots
  have passes {x slot} (member : x ∈ xs) (own : outcome (rule.entryReport x) {} = .ok slot)
      (ledger : Ledger) : rule.Passes x ledger ↔ slot = none :=
    passes_iff_of_slot isList plain (steady x member) own ledger
  refine ⟨own.length_eq.symm, fun i x at_i => ?_, fun zs same => ?_, payload, ?_⟩
  · obtain ⟨slot, found, reported⟩ := slots_at isList plain steady slots at_i
    have member := List.mem_of_getElem? at_i
    exact ⟨slot, found, slots_singleton isList plain (steady x member) reported,
      passes member reported⟩
  · obtain ⟨sz, paired, together⟩ := exists_partners_of_perm same own
    have steadyZ : ∀ z ∈ zs, z.isSteady := fun z member => steady z (same.mem_iff.2 member)
    exact ⟨sz, (each steadyZ).2 paired, together⟩
  · rw [payload, Except.ok.injEq, Report.ofSlots_eq_none]
    constructor
    · intro empty x member ledger
      obtain ⟨slot, inside, reported⟩ := exists_partner own.flip member
      exact (passes member reported ledger).2 (empty slot inside)
    · intro passed slot inside
      obtain ⟨x, member, reported⟩ := exists_partner own inside
      exact (passes member reported {}).1 (passed x member {})

/-- A record that fails and an entry that is no record, before and behind a record that passes. -/
theorem slots_apart_integers :
    let g : Registry := {}
    let rule := Rule.objects .null .null
      (.fields 0 [(.str "n", .mk [.comparison { operator := .integer }] .null)])
    let record (v : Value) := Value.dict [(.str "n", v)]
    let failed := some (Report.fields [(.str "n", .code (.str Code.notInteger))])
    let format := some (Report.code (.str Code.formatError))
    g.IsSourceless ∧ g.HasRead rule ∧ rule.isList ∧
      rule.slots [record (.str "x"), .int 3] = .ok [failed, format] ∧
      rule.slots ([record (.str "x"), .int 3] ++ [record (.int 1)]) =
        .ok ([failed, format] ++ [none]) ∧
      ∃ slots, rule.slots [.int 3, record (.str "x")] = .ok slots ∧
        ([record (.str "x"), .int 3].zip [failed, format]).Perm
          ([.int 3, record (.str "x")].zip slots) := by
  intro g rule record failed format
  have sourceless : g.IsSourceless := fun name make found =>
    ((Registry.IsStandard.builtins (D := fun _ => True) "entry" true).find? found).elim
  have finished : outcome (g.finish ⟨.objects, .dict [(.str "n", .str "integer")], .null, .null⟩)
      {} = .ok rule := by
    have integer : Registry.parseWithin g [] (g.deeper []) (.str "integer") =
        pure (.mk [.comparison { operator := .integer }] .null) :=
      Registry.parseWithin_name (b := .integer) rfl rfl rfl
    rw [Registry.finish, Registry.finishWithin]
    simp only [Registry.buildWithin_dict, List.mapM_cons, List.mapM_nil, integer]
    rfl
  have read : g.HasRead rule := .finished finished (self_mem_pieces rule)
  obtain ⟨-, joined, each⟩ := slots_apart sourceless read rfl
  have steady : ∀ z ∈ [record (.str "x"), .int 3], z.isSteady := by decide
  have both : rule.slots [record (.str "x"), .int 3] = .ok [failed, format] := by cbv
  have last : rule.slots [record (.int 1)] = .ok [none] := by cbv
  obtain ⟨-, -, others, -⟩ := each _ _ steady both
  exact ⟨sourceless, read, rfl, both, joined _ _ _ _ steady (by decide) both last,
    others _ (.swap ..)⟩

end Rule

end RecordCheck
