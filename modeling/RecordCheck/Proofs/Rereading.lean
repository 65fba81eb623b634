import RecordCheck.Proofs.Calls
import RecordCheck.Proofs.Lasting

/-!
# Reading again

A description can be read while more names are pending, and after more has been taken from streams.
What could be read before can still be read, unless it leads back to a name that is pending now;
what had no end before has none now. So it makes no difference to the rules of an alias whether the
alias is pending.

## Main definitions

* `Registry.Paired`: what it takes to read descriptions side by side while different names are
  pending.
* `Registry.IsSteady`: ways of making rules that a program has added last.

## Main statements

* `Registry.Paired.parse`: descriptions are read side by side.
* `Registry.agreement_paired`: registries that know the same names.
* `Registry.lasting_paired`: reading lasts.
* `Registry.parse_pending`: whether an alias is pending makes no difference to its rules.
-/
set_option autoImplicit false

namespace RecordCheck

open Act

namespace Registry

/-- The rules that a name stands for, unless they are being read already. -/
def readOwn (g : Registry) (pending : List String) (name : String) (rules : Value) : Act RuleSet :=
  if name ∈ pending then throw .endless
  else parseWithin g (name :: pending) (g.deeper (name :: pending)) rules

/-- What rules, sets and validators that are read from two registries have in common. It holds of
what reading puts together where it holds of the parts, and of rules that are the same; if these
need not be `exact`, it holds of any two rules. -/
structure Likeness (exact : Prop) (g h : Registry) where
  rule : Rule → Rule → Prop
  set : RuleSet → RuleSet → Prop
  validator : Validator → Validator → Prop
  made : ∀ {r s}, (exact → r = s) → rule r s
  read : ∀ {rs ss}, List.Forall₂ rule rs ss → set (.mk rs .null) (.mk ss .null)
  all : ∀ {s t} override, set s t →
    rule (.all 0 (s.withOverride override)) (.all 0 (t.withOverride override))
  listOf : ∀ {s t} field, set s t →
    rule (.listOf field 0 g.entryField s) (.listOf field 0 h.entryField t)
  object : ∀ {v w} field entryField, validator v w →
    rule (.object field entryField v) (.object field entryField w)
  objects : ∀ {v w} field entryField, validator v w →
    rule (.objects field entryField v) (.objects field entryField w)
  fields : ∀ {es fs}, List.Forall₂ (fun e f => e.1 = f.1 ∧ set e.2 f.2) es fs →
    validator (.fields 0 es) (.fields 0 fs)
  switch : ∀ {cs ds} field, List.Forall₂ (fun c d => c.1 = d.1 ∧ validator c.2 d.2) cs ds →
    validator (.switch 0 field cs) (.switch 0 field ds)

/-- Where rules have to be `exact`, everything is the same. -/
def Likeness.equal (exact : Prop) (g : Registry) : Likeness exact g g :=
  have lists {α : Type} {xs ys : List α} (h : List.Forall₂ (fun x y => exact → x = y) xs ys)
      (asked : exact) : xs = ys := List.forall₂_eq_eq_eq ▸ h.imp fun _ _ same => same asked
  have entries {α : Type} {xs ys : List (Value × α)}
      (h : List.Forall₂ (fun x y => x.1 = y.1 ∧ (exact → x.2 = y.2)) xs ys) : exact → xs = ys :=
    lists (h.imp fun _ _ pair asked => Prod.ext pair.1 (pair.2 asked))
  { rule := fun r s => exact → r = s
    set := fun s t => exact → s = t
    validator := fun v w => exact → v = w
    made := id
    read := fun h asked => by rw [lists h asked]
    all := fun _ h asked => by rw [h asked]
    listOf := fun _ h asked => by rw [h asked]
    object := fun _ _ h asked => by rw [h asked]
    objects := fun _ _ h asked => by rw [h asked]
    fields := fun h asked => by rw [entries h asked]
    switch := fun _ h asked => by rw [entries h asked] }

/-- The calls of descriptions can be made side by side while different names are pending. -/
structure Paired (c : Coupling) {exact : Prop} {g h : Registry} (like : Likeness exact g h)
    (p q : List String) : Prop where
  names : ∀ name, h.find? name = g.find? name
  builtin : ∀ (b : Builtin) args, c.Holds (Rule.SameForm exact) (b.make args) (b.make args)
  custom : ∀ name make, g.find? name = some (.custom make) → ∀ args,
    c.Holds (Option.Rel (Rule.SameForm exact)) (make args) (make args)
  standsFor : ∀ name rules override, g.find? name = some (.standsFor rules override) →
    c.Holds like.set (g.readOwn p name rules) (h.readOwn q name rules)
  own : ∀ name d, (∀ rules override, g.find? name ≠ some (.standsFor rules override)) →
    c.Holds like.rule (finishOwn g p (g.deeper p) name d) (finishOwn h q (h.deeper q) name d)

theorem makeWithin_readOwn {g : Registry} {pending : List String} {call : Call}
    {rules override : Value} (found : g.find? call.name = some (.standsFor rules override))
    (bare : call.arguments = []) :
    makeWithin g pending (g.deeper pending) call = do
      return .all 0 ((← g.readOwn pending call.name rules).withOverride override) := by
  unfold readOwn
  split
  · next old => rw [makeWithin_pending found bare old]; rfl
  · next fresh => rw [makeWithin_standsFor found bare fresh]

namespace Paired

variable {c : Coupling} {exact : Prop} {g h : Registry} {like : Likeness exact g h}
  {p q : List String}

/-- Two rules that were made: one draft, which no alias has made, or finished rules alike. -/
inductive Made (like : Likeness exact g h) (name : String) : Rule → Rule → Prop
  | draft (d : Draft) : (∀ rules override, g.find? name ≠ some (.standsFor rules override)) →
    Made like name (.draft d) (.draft d)
  | finished {r s : Rule} : r.isDraft = false → s.isDraft = false → like.rule r s →
    Made like name r s

theorem Made.of_sameForm {name : String} {r s : Rule}
    (noAlias : ∀ rules override, g.find? name ≠ some (.standsFor rules override))
    (same : Rule.SameForm exact r s) : Made like name r s := by
  cases same with
  | draft d => exact .draft d noAlias
  | finished hr hs same => exact .finished hr hs (like.made same)

theorem make (pair : Paired c like p q) (call : Call) :
    c.Holds (Made like call.name) (makeWithin g p (g.deeper p) call)
      (makeWithin h q (h.deeper q) call) := by
  have other := pair.names call.name
  cases found : g.find? call.name with
  | none =>
    rw [makeWithin_unknown found, makeWithin_unknown (other.trans found)]
    exact .throw _
  | some definition =>
    cases definition with
    | builtin b =>
      rw [makeWithin_builtin found, makeWithin_builtin (other.trans found)]
      exact (pair.builtin b _).mono fun _ _ => .of_sameForm (by simp [found])
    | custom make =>
      rw [makeWithin_custom found, makeWithin_custom (other.trans found)]
      refine (pair.custom _ make found _).bind fun x y same => ?_
      cases same with
      | some same => exact .pure (.of_sameForm (by simp [found]) same)
      | none => exact .throw _
    | standsFor rules override =>
      by_cases bare : call.arguments = []
      · rw [makeWithin_readOwn found bare, makeWithin_readOwn (other.trans found) bare]
        exact (pair.standsFor _ rules override found).bind fun s t same =>
          .pure (.finished rfl rfl (like.all override same))
      · rw [makeWithin_arguments found bare, makeWithin_arguments (other.trans found) bare]
        exact .throw _

mutual

theorem parse (pair : Paired c like p q) (description : Value) :
    c.Holds like.set (parseWithin g p (g.deeper p) description)
      (parseWithin h q (h.deeper q) description) := by
  rw [parseWithin_eq, parseWithin_eq]
  refine Coupling.Holds.bind (R := List.Forall₂ like.rule)
    (.mapM fun call member => ?_) fun rs ss same => .pure (like.read same)
  match call, member with
  | .error e, _ => exact .throw e
  | .ok call, member =>
    have := Description.argument_weight_lt description member
    exact rule pair call
termination_by 4 * description.weight

theorem rule (pair : Paired c like p q) (call : Call) :
    c.Holds like.rule (ruleWithin g p (g.deeper p) call) (ruleWithin h q (h.deeper q) call) := by
  rw [ruleWithin_eq, ruleWithin_eq]
  refine (pair.make call).bind fun r s made => ?_
  cases made with
  | draft d noAlias =>
    by_cases lighter : d.description.weight ≤ call.argument.weight
    · simp only [completeWithin, if_pos lighter]
      exact finish pair d
    · simp only [completeWithin, if_neg lighter]
      exact pair.own call.name d noAlias
  | finished hr hs same =>
    rw [completeWithin_finished call hr, completeWithin_finished call hs]
    exact .pure same
termination_by 4 * call.argument.weight + 3

theorem finish (pair : Paired c like p q) (d : Draft) :
    c.Holds like.rule (finishWithin g p (g.deeper p) d) (finishWithin h q (h.deeper q) d) := by
  cases kind : d.kind with
  | object =>
    rw [finishWithin, finishWithin]
    simp only [kind]
    exact (build pair d.description).bind fun es fs same =>
      .pure (like.object _ _ (like.fields same))
  | objects =>
    rw [finishWithin, finishWithin]
    simp only [kind]
    exact (build pair d.description).bind fun es fs same =>
      .pure (like.objects _ _ (like.fields same))
  | list =>
    rw [finishWithin, finishWithin]
    simp only [kind]
    exact (parse pair d.description).bind fun s t same => .pure (like.listOf _ same)
  | variants =>
    by_cases mapping : d.description.isMapping
    · obtain ⟨entries, shape⟩ := Value.exists_entries mapping
      rw [finishWithin_variants kind shape, finishWithin_variants kind shape]
      refine Coupling.Holds.bind
        (R := List.Forall₂ fun c d => c.1 = d.1 ∧ like.validator c.2 d.2)
        (.mapM fun entry member => ?_) fun cs ds same =>
          .pure (like.objects _ _ (like.switch _ same))
      have : entry.2.weight < d.description.weight := shape ▸ Value.weight_lt_dict member
      exact (build pair entry.2).bind fun es fs same => .pure ⟨rfl, like.fields same⟩
    · rw [finishWithin_noCases kind (by simpa using mapping),
        finishWithin_noCases kind (by simpa using mapping)]
      exact .throw _
  | unknown operator =>
    rw [finishWithin_unknown kind, finishWithin_unknown kind]
    exact (Coupling.Holds.lift _).bind fun _ _ same => same ▸ .throw _
termination_by 4 * d.description.weight + 2

theorem build (pair : Paired c like p q) (ruleset : Value) :
    c.Holds (List.Forall₂ fun e f => e.1 = f.1 ∧ like.set e.2 f.2)
      (buildWithin g p (g.deeper p) ruleset) (buildWithin h q (h.deeper q) ruleset) := by
  match ruleset with
  | .null =>
    rw [buildWithin, buildWithin]
    exact .pure .nil
  | .dict entries =>
    rw [buildWithin_dict, buildWithin_dict]
    refine .mapM fun entry member => ?_
    have : entry.2.weight < (Value.dict entries).weight := Value.weight_lt_dict member
    exact (parse pair entry.2).bind fun s t same => .pure ⟨rfl, same⟩
  | .bool _ | .int _ | .float _ | .str _ | .brokenStr _ | .bytes _ | .bytearray _ | .items ..
  | .stream .. | .object _ | .other .. =>
    simp only [buildWithin]
    exact .throw _
termination_by 4 * ruleset.weight + 1

end

end Paired

/-- Registries that know the same names read descriptions side by side, down to the errors. -/
theorem agreement_paired {exact : Prop} {g h : Registry} (like : Likeness exact g h)
    (names : ∀ name, h.find? name = g.find? name) (pending : List String) :
    Paired Coupling.agreement like pending pending := by
  have steps (name : String) (known : (g.find? name).isSome) (fresh : name ∉ pending) :
      Paired Coupling.agreement like (name :: pending) (name :: pending) :=
    have := spare_cons_lt known (by simpa using fresh)
    agreement_paired like names (name :: pending)
  refine ⟨names, fun b args => .refl .refl _, fun name make _ args => .refl ?_ _, ?_, ?_⟩
  · intro made
    cases made with
    | none => exact .none
    | some r => exact .some (.refl r)
  · intro name rules override found
    unfold readOwn
    split
    · exact .throw _
    · next fresh => exact (steps name (by simp [found]) fresh).parse rules
  · intro name d _
    by_cases known : (g.find? name).isSome
    · have known' : (h.find? name).isSome := by rwa [names]
      by_cases old : name ∈ pending
      · rw [finishOwn_pending d known old, finishOwn_pending d known' old]
        exact .throw _
      · rw [finishOwn_fresh d known old, finishOwn_fresh d known' old]
        exact (steps name known old).finish d
    · have unknown : g.find? name = none := by simpa using known
      rw [finishOwn_unknown d unknown, finishOwn_unknown d ((names name).trans unknown)]
      exact .throw _
termination_by g.spare pending

/-! ## Later -/

/-- Ways of making rules that a program has added put nothing back into streams; where they make
something, they make the like of it later. -/
def IsSteady (g : Registry) : Prop :=
  ∀ name make, g.find? name = some (.custom make) → ∀ args, Act.Grows (make args) ∧
    Coupling.lasting.Holds (Option.Rel (Rule.SameForm False)) (make args) (make args)

/-- Reading lasts, however many more names are pending. -/
theorem lasting_paired {g : Registry} (steady : g.IsSteady) (p q : List String) (more : p ⊆ q) :
    Paired Coupling.lasting (.equal False g) p q := by
  refine ⟨fun _ => rfl, Builtin.lasting_make,
    fun name make found args => (steady name make found args).2, ?_, ?_⟩
  · intro name rules override found
    have known : (g.find? name).isSome := by simp [found]
    unfold readOwn
    by_cases old : name ∈ p
    · rw [if_pos old, if_pos (more old)]
      exact .throw _
    rw [if_neg old]
    by_cases met : name ∈ q
    · rw [if_pos met]
      exact Coupling.lasting_endless _
    · rw [if_neg met]
      have := spare_cons_lt known (by simpa using old)
      exact (lasting_paired steady (name :: p) (name :: q)
        (List.cons_subset_cons _ more)).parse rules
  · intro name d _
    by_cases known : (g.find? name).isSome
    · by_cases old : name ∈ p
      · rw [finishOwn_pending d known old, finishOwn_pending d known (more old)]
        exact .throw _
      rw [finishOwn_fresh d known old]
      by_cases met : name ∈ q
      · rw [finishOwn_pending d known met]
        exact Coupling.lasting_endless _
      · rw [finishOwn_fresh d known met]
        have := spare_cons_lt known (by simpa using old)
        exact (lasting_paired steady (name :: p) (name :: q)
          (List.cons_subset_cons _ more)).finish d
    · have unknown : g.find? name = none := by simpa using known
      rw [finishOwn_unknown d unknown, finishOwn_unknown d unknown]
      exact .throw _
termination_by g.spare p

/-! ## While an alias is pending -/

/-- Both run from one ledger with a property and leave such a ledger, or fail with the same error;
what has no end on the left may stand against anything if that is tolerated. -/
def rereading (P : Ledger → Prop) (tolerant : Prop) : Coupling where
  ledgers l m := l = m ∧ P l
  failures e f := (tolerant ∧ e = some .endless) ∨ (e.isSome ∧ e = f)
  same _ := .inr ⟨rfl, rfl⟩
  left := by
    rintro e (h | ⟨-, h⟩) f
    · exact .inl h
    · cases h
  right := by
    rintro f (⟨-, h⟩ | ⟨h, -⟩) e
    · cases h
    · cases h

variable {P : Ledger → Prop} {tolerant : Prop}

theorem rereading_refl {α : Type} {R : α → α → Prop} (reflexive : ∀ x, R x x) {a : Act α}
    (keeps : ∀ l, P l → P (after a l)) : (rereading P tolerant).Holds R a a := by
  rintro l _ ⟨rfl, start⟩
  have := keeps l start
  unfold Coupling.Pairs
  split
  all_goals simp_all [rereading]

theorem rereading_tolerant {α β : Type} {R : α → β → Prop} (b : Act β) :
    (rereading P True).Holds R (throw .endless) b := by
  intro l m _
  unfold Coupling.Pairs
  rw [outcome_throw]
  split
  all_goals simp_all [rereading]

/-- A run that comes to an end, or stands against the same anyway, agrees with the other. -/
theorem agree_of_rereading {α : Type} {a b : Act α} {l : Ledger}
    (h : (rereading P tolerant).Holds (fun x y => True → x = y) a b) (start : P l)
    (ends : tolerant → outcome a l ≠ .error .endless) :
    Coupling.agreement.Pairs (· = ·) a b l l := by
  have run := h l l ⟨rfl, start⟩
  unfold Coupling.Pairs at run ⊢
  split at run
  · exact ⟨run.1 trivial, run.2.1⟩
  · rcases run with ⟨-, endless⟩ | same
    · cases endless
    · exact same
  all_goals
    next failed _ =>
    rcases run with ⟨tolerated, endless⟩ | same
    · exact absurd (Option.some.inj endless ▸ failed) (ends tolerated)
    · exact same

/-- It makes no difference to a description that an alias is pending, apart from where the alias
comes up in it. -/
theorem pending_paired {g : Registry} {name : String} {rules override : Value}
    (found : g.find? name = some (.standsFor rules override))
    (builtin : ∀ (b : Builtin) args l, P l → P (after (b.make args) l))
    (custom : ∀ other make, g.find? other = some (.custom make) → ∀ args l, P l →
      P (after (make args) l))
    (again : ∀ p, name ∉ p → (rereading P tolerant).Holds (fun s t => True → s = t)
      (throw .endless) (parseWithin g (name :: p) (g.deeper (name :: p)) rules))
    (q p : List String) (sub : p ⊆ q) (extra : ∀ x ∈ q, x = name ∨ x ∈ p) :
    Paired (rereading P tolerant) (.equal True g) q p := by
  have extra_cons (other : String) : ∀ x ∈ other :: q, x = name ∨ x ∈ other :: p :=
    List.forall_mem_cons.2 ⟨.inr (.head _), fun x h => (extra x h).imp_right (.tail _)⟩
  refine ⟨fun _ => rfl, fun b args => rereading_refl .refl (builtin b args), ?_, ?_, ?_⟩
  · intro other make isCustom args
    refine rereading_refl (fun made => ?_) (custom other make isCustom args)
    cases made with
    | none => exact .none
    | some r => exact .some (.refl r)
  · intro other otherRules otherOverride otherFound
    have known : (g.find? other).isSome := by simp [otherFound]
    unfold readOwn
    by_cases old : other ∈ p
    · rw [if_pos (sub old), if_pos old]
      exact .throw _
    rw [if_neg old]
    by_cases met : other ∈ q
    · -- What is pending on one side only is the alias itself.
      rw [if_pos met]
      obtain rfl := (extra other met).resolve_right old
      obtain ⟨rfl, -⟩ := Definition.standsFor.inj (Option.some.inj (found.symm.trans otherFound))
      exact again p old
    · rw [if_neg met]
      have := spare_cons_lt known (by simpa using old)
      exact (pending_paired found builtin custom again (other :: q) (other :: p)
        (List.cons_subset_cons _ sub) (extra_cons other)).parse otherRules
  · intro other d noAlias
    have other_ne : other ≠ name := fun same => noAlias _ _ (same ▸ found)
    by_cases known : (g.find? other).isSome
    · by_cases old : other ∈ p
      · rw [finishOwn_pending d known old, finishOwn_pending d known (sub old)]
        exact .throw _
      have met : other ∉ q := fun h => old ((extra other h).resolve_left other_ne)
      rw [finishOwn_fresh d known old, finishOwn_fresh d known met]
      have := spare_cons_lt known (by simpa using old)
      exact (pending_paired found builtin custom again (other :: q) (other :: p)
        (List.cons_subset_cons _ sub) (extra_cons other)).finish d
    · have unknown : g.find? other = none := by simpa using known
      rw [finishOwn_unknown d unknown, finishOwn_unknown d unknown]
      exact .throw _
termination_by g.spare p

/-- The rules of an alias are the same whether the alias is pending or not; where they lead back to
the alias, what a program has added must last. -/
theorem parse_pending {g : Registry} {name : String} {rules override : Value}
    (found : g.find? name = some (.standsFor rules override))
    (steady : g.IsSteady ∨
      ∀ l, outcome (parseWithin g [name] (g.deeper [name]) rules) l ≠ .error .endless) :
    Coupling.agreement.Holds (· = ·) (parseWithin g [name] (g.deeper [name]) rules)
      (g.parse rules) := by
  rintro l _ rfl
  have sub : ([] : List String) ⊆ [name] := List.nil_subset _
  have extra : ∀ x ∈ [name], x = name ∨ x ∈ [] := fun x h => .inl (List.mem_singleton.1 h)
  by_cases top : outcome (parseWithin g [name] (g.deeper [name]) rules) l = .error .endless
  · have lasts := steady.resolve_right fun never => never l top
    have again (p : List String) : (rereading (l ≤ ·) False).Holds (fun s t => True → s = t)
        (throw .endless) (parseWithin g (name :: p) (g.deeper (name :: p)) rules) := by
      rintro m _ ⟨rfl, later⟩
      have last := (lasting_paired lasts [name] (name :: p) (by simp)).parse rules l m later
      have ends : outcome (parseWithin g (name :: p) (g.deeper (name :: p)) rules) m =
          .error .endless := by
        unfold Coupling.Pairs at last
        rw [top] at last
        split at last
        all_goals simp_all [Coupling.lasting]
      unfold Coupling.Pairs
      rw [outcome_throw, ends]
      exact .inr ⟨rfl, rfl⟩
    have pair := (pending_paired (P := (l ≤ ·)) found
      (fun b args m h => Ledger.le_trans h (Builtin.grows_make b args m))
      (fun other make h args m h' => Ledger.le_trans h' ((lasts other make h args).1 m))
      (fun p _ => again p) [name] [] sub extra).parse rules
    exact agree_of_rereading pair (Ledger.le_refl l) False.elim
  · have pair := (pending_paired (P := fun _ => True) found
      (fun _ _ _ _ => trivial) (fun _ _ _ _ _ _ => trivial)
      (fun p _ => rereading_tolerant _) [name] [] sub extra).parse rules
    exact agree_of_rereading pair trivial fun _ => top

end Registry

end RecordCheck
