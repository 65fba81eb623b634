import RecordCheck.Proofs.Footprint
import RecordCheck.Proofs.Reading

/-!
# Descriptions without streams

Reading a description takes entries from the streams that are handed to rules in it. Where there are
none, it makes no difference when the description is read.

## Main definitions

* `Act.IsStill`: an action that neither looks at streams nor takes from them.
* `Registry.IsStill`: the names of a registry make rules without looking at further streams.

## Main statements

* `Builtin.make_still`: built-in rules are made in this way.
* `Registry.parse_still`, `Registry.build_still`: and so is what is read from descriptions.
-/
set_option autoImplicit false

namespace RecordCheck

open Act

/-- An action that neither looks at streams nor takes from them. -/
abbrev Act.IsStill {α : Type} (a : Act α) : Prop := Within (fun _ => False) a

namespace Act.IsStill

variable {α β : Type}

theorem outcome_eq {a : Act α} (h : IsStill a) (l m : Ledger) : outcome a l = outcome a m :=
  h.same fun _ none => none.elim

/-- A list is gone through entry by entry. -/
theorem mapM_ok_iff {f : α → Act β} {xs : List α} {ys : List β} {l m : Ledger}
    (each : ∀ x ∈ xs, IsStill (f x)) :
    outcome (xs.mapM f) l = .ok ys ↔ List.Forall₂ (fun x y => outcome (f x) m = .ok y) xs ys := by
  induction xs generalizing l ys with
  | nil => simp [eq_comm]
  | cons x xs ih =>
    obtain ⟨first, others⟩ := List.forall_mem_cons.1 each
    rw [List.mapM_cons, outcome_bind_ok, first.outcome_eq l m, List.forall₂_cons_left_iff]
    simp only [outcome_bind_ok, ih others]
    constructor
    · rintro ⟨y, own, rest, each, made⟩
      cases made
      exact ⟨y, rest, own, each, rfl⟩
    · rintro ⟨y, rest, own, each, rfl⟩
      exact ⟨y, own, rest, each, rfl⟩

end Act.IsStill

theorem Value.hereditary_isSteady : Hereditary fun v => v.isSteady where
  null := rfl
  items h v member := by
    rw [isSteady] at h
    exact areSteady_iff.1 h v member
  dict h entry member := by
    rw [isSteady] at h
    exact (entriesSteady_iff.1 h entry member).2

theorem Value.walk_still {v : Value} (steady : v.isSteady) : IsStill v.walk := by
  cases v with
  | stream => cases steady
  | _ => exact .lift _

/-- Made of arguments without streams, a built-in rule does not depend on the ledger. -/
theorem Builtin.make_still (b : Builtin) {args : List Value} (steady : ∀ a ∈ args, a.isSteady) :
    IsStill (b.make args) := by
  by_cases isOneOf : b = oneOf
  · subst isOneOf
    match args with
    | [values] =>
      have own : values.isSteady := steady values (List.mem_singleton_self _)
      exact .map _ (.bind (Value.walk_still own) fun _ => .pure _)
    | [] | _ :: _ :: _ => exact .throw _
  by_cases isLike : b = like
  · subst isLike
    have letters {flags : Value} (steady : flags.isSteady) : IsStill (Match.flagsLeft flags) := by
      cases flags with
      | stream => cases steady
      | _ => exact .pure _
    have pattern {flags : Value} (steady : flags.isSteady) (source : Value) :
        IsStill (Match.like source flags) := by
      rw [Match.like_eq]
      exact (letters steady).bind fun _ => .bind (.lift _) fun _ => .bind (.lift _) fun _ => .pure _
    match args with
    | [source] => exact .map _ (pattern rfl source)
    | [source, flags] => exact .map _ (pattern (steady flags (by simp)) source)
    | [] | _ :: _ :: _ :: _ => exact .throw _
  · obtain ⟨r, same⟩ := make_lift isOneOf isLike args
    rw [same]
    exact .lift r

/-- Where a draft is made, there are no streams in its description. -/
abbrev Rule.IsSteadyDraft : Rule → Prop := Made (fun d => d.isSteady) fun _ => True

theorem Builtin.make_steadyDraft (b : Builtin) {args : List Value}
    (steady : ∀ a ∈ args, a.isSteady) : Yields (b.make args) Rule.IsSteadyDraft := by
  refine (Builtin.make_makes b args).mono (fun rule made => ?_) fun _ h => h
  cases made with
  | draft inside => exact steady _ inside
  | _ => exact fun _ _ => trivial

/-- There are no streams in what aliases stand for, and what a program has added makes rules of
arguments without streams without looking at further ones. -/
structure Registry.IsStill (g : Registry) : Prop where
  standsFor : ∀ name rules override, g.find? name = some (.standsFor rules override) →
    rules.isSteady
  custom : ∀ name make, g.find? name = some (.custom make) → ∀ args, (∀ a ∈ args, a.isSteady) →
    Act.IsStill (make args) ∧ Yields (make args) fun made => ∀ rule ∈ made, rule.IsSteadyDraft

namespace Registry

variable {g : Registry}

/-- A way of reading descriptions and drafts without streams. -/
def Reading.IsStill (reading : Reading) : Prop :=
  (∀ d, d.isSteady → Act.IsStill (reading.parse d)) ∧
    ∀ d : Draft, d.description.isSteady → Act.IsStill (reading.finish d)

section Within

variable {pending : List String}
  {deeper : (name : String) → (g.find? name).isSome → ¬ pending.contains name → Reading}

theorem makeWithin_still (still : g.IsStill)
    (sound : ∀ name known fresh, (deeper name known fresh).IsStill) (call : Call)
    (steady : call.argument.isSteady) :
    Act.IsStill (makeWithin g pending deeper call) ∧
      Yields (makeWithin g pending deeper call) Rule.IsSteadyDraft := by
  have args := Call.forall_arguments Value.hereditary_isSteady steady
  unfold makeWithin
  split
  · exact ⟨.throw _, .throw trivial⟩
  · next b _ => exact ⟨b.make_still args, b.make_steadyDraft args⟩
  · next make found =>
    obtain ⟨still, drafts⟩ := still.custom _ make found _ args
    refine ⟨still.bind fun made => ?_, drafts.bind fun made hm => ?_⟩
    · cases made with
      | some rule => exact .pure _
      | none => exact .throw _
    · cases made with
      | some rule => exact .pure (hm _ rfl)
      | none => exact .throw trivial
  · next rules override found =>
    have inner := still.standsFor _ _ _ found
    split
    · exact ⟨.throw _, .throw trivial⟩
    split
    · exact ⟨.throw _, .throw trivial⟩
    · next fresh =>
      have read := (sound _ (by simp [found]) fresh).1 rules inner
      exact ⟨read.bind fun _ => .pure _, (yields_any _).bind fun _ _ => .pure fun _ _ => trivial⟩

theorem finishOwn_still (sound : ∀ name known fresh, (deeper name known fresh).IsStill)
    (name : String) (d : Draft) (steady : d.description.isSteady) :
    Act.IsStill (finishOwn g pending deeper name d) := by
  unfold finishOwn
  split
  · split
    · exact .throw _
    · next fresh => exact (sound _ _ fresh).2 d steady
  · exact .throw _

mutual

theorem parseWithin_still (still : g.IsStill)
    (sound : ∀ name known fresh, (deeper name known fresh).IsStill) (description : Value)
    (steady : description.isSteady) : Act.IsStill (parseWithin g pending deeper description) := by
  rw [parseWithin_eq]
  refine Within.bind (.mapM fun call member => ?_) fun _ => .pure _
  cases call with
  | error e => exact .throw _
  | ok call =>
    have := Description.argument_weight_lt description member
    exact ruleWithin_still still sound call
      (Description.argument_of_mem_calls Value.hereditary_isSteady description steady member)
termination_by 4 * description.weight

theorem ruleWithin_still (still : g.IsStill)
    (sound : ∀ name known fresh, (deeper name known fresh).IsStill) (call : Call)
    (steady : call.argument.isSteady) : Act.IsStill (ruleWithin g pending deeper call) := by
  rw [ruleWithin_eq]
  obtain ⟨made, drafts⟩ := makeWithin_still still sound call steady
  refine made.bind_of drafts fun rule own => ?_
  cases rule with
  | draft d =>
    rw [completeWithin]
    split
    · exact finishWithin_still still sound d own
    · exact finishOwn_still sound call.name d own
  | _ => exact .pure _
termination_by 4 * call.argument.weight + 3

theorem finishWithin_still (still : g.IsStill)
    (sound : ∀ name known fresh, (deeper name known fresh).IsStill) (d : Draft)
    (steady : d.description.isSteady) : Act.IsStill (finishWithin g pending deeper d) := by
  cases kind : d.kind with
  | object | objects =>
    rw [finishWithin]
    simp only [kind]
    exact (buildWithin_still still sound d.description steady).bind fun _ => .pure _
  | list =>
    rw [finishWithin]
    simp only [kind]
    exact (parseWithin_still still sound d.description steady).bind fun _ => .pure _
  | variants =>
    by_cases mapping : d.description.isMapping
    · obtain ⟨entries, shape⟩ := Value.exists_entries mapping
      rw [finishWithin_variants kind shape]
      refine Within.bind (.mapM fun entry member => ?_) fun _ => .pure _
      have : entry.2.weight < d.description.weight := shape ▸ Value.weight_lt_dict member
      have own := Value.hereditary_isSteady.dict (shape ▸ steady) entry member
      exact (buildWithin_still still sound entry.2 own).bind fun _ => .pure _
    · rw [finishWithin_noCases kind (by simpa using mapping)]
      exact .throw _
  | unknown operator =>
    rw [finishWithin_unknown kind]
    exact .bind (.lift _) fun _ => .throw _
termination_by 4 * d.description.weight + 2

theorem buildWithin_still (still : g.IsStill)
    (sound : ∀ name known fresh, (deeper name known fresh).IsStill) (ruleset : Value)
    (steady : ruleset.isSteady) : Act.IsStill (buildWithin g pending deeper ruleset) := by
  match ruleset with
  | .null => rw [buildWithin]; exact .pure _
  | .dict entries =>
    rw [buildWithin_dict]
    refine .mapM fun entry member => ?_
    have : entry.2.weight < (Value.dict entries).weight := Value.weight_lt_dict member
    have own := Value.hereditary_isSteady.dict steady entry member
    exact (parseWithin_still still sound entry.2 own).bind fun _ => .pure _
  | .bool _ | .int _ | .float _ | .str _ | .brokenStr _ | .bytes _ | .bytearray _ | .items ..
  | .stream .. | .object _ | .other .. => simp only [buildWithin]; exact .throw _
termination_by 4 * ruleset.weight + 1

end

end Within

theorem reading_still (still : g.IsStill) (pending : List String) :
    (g.reading pending).IsStill := by
  rw [reading]
  have sound : ∀ name (known : (g.find? name).isSome) (fresh : ¬ pending.contains name),
      (g.reading (name :: pending)).IsStill := fun name known fresh =>
    have := spare_cons_lt known fresh
    reading_still still (name :: pending)
  exact ⟨parseWithin_still still sound, finishWithin_still still sound⟩
termination_by g.spare pending

section Steady

variable (still : g.IsStill)
include still

/-- It makes no difference when a description without streams is read. -/
theorem parse_still {d : Value} (steady : d.isSteady) : Act.IsStill (g.parse d) :=
  parseWithin_still still (fun name _ _ => reading_still still [name]) d steady

end Steady

end Registry

end RecordCheck
