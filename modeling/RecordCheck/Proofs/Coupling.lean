import RecordCheck.Proofs.Outcome

/-!
# Actions side by side

Two actions are compared by running both and pairing what they give. A coupling tells from which
ledgers they start and which failures of one may stand against what happens to the other; what is
then shown of the steps holds of the whole.

## Main definitions

* `Coupling`, and `Coupling.Holds`: a coupling relates two actions.
* `Coupling.agreement`: the same from one ledger, down to the errors.

## Main statements

* `Coupling.Holds.bind`, `Coupling.Holds.mapM`: from the steps to the whole.
-/
set_option autoImplicit false

namespace RecordCheck

open Act

/-- How far two runs may differ: in the ledgers that they start from and leave, and in the ways they
fail, where `none` stands for a run that gives a result. Once a failure is allowed against a result,
it is allowed against whatever comes after the result. -/
structure Coupling where
  ledgers : Ledger → Ledger → Prop
  failures : Option Error → Option Error → Prop
  same : ∀ e, failures (some e) (some e)
  left : ∀ {e}, failures (some e) none → ∀ f, failures (some e) f
  right : ∀ {f}, failures none (some f) → ∀ e, failures e (some f)

namespace Coupling

variable {α β γ δ : Type} {c : Coupling} {R S : α → β → Prop} {a : Act α} {b : Act β}

/-- Run from two ledgers, two actions give related results and leave paired ledgers, or fail as the
coupling allows. -/
def Pairs (c : Coupling) (R : α → β → Prop) (a : Act α) (b : Act β) (l m : Ledger) : Prop :=
  match outcome a l, outcome b m with
  | .ok x, .ok y => R x y ∧ c.ledgers (after a l) (after b m)
  | .ok _, .error f => c.failures none (some f)
  | .error e, .ok _ => c.failures (some e) none
  | .error e, .error f => c.failures (some e) (some f)

/-- Two actions are paired whenever they start from paired ledgers. -/
def Holds (c : Coupling) (R : α → β → Prop) (a : Act α) (b : Act β) : Prop :=
  ∀ l m, c.ledgers l m → c.Pairs R a b l m

namespace Holds

theorem mono (h : c.Holds R a b) (weaker : ∀ x y, R x y → S x y) : c.Holds S a b := by
  intro l m start
  have run := h l m start
  unfold Pairs at run ⊢
  split at run
  · exact ⟨weaker _ _ run.1, run.2⟩
  all_goals exact run

theorem pure {x : α} {y : β} (h : R x y) : c.Holds R (Pure.pure x) (Pure.pure y) :=
  fun _ _ start => ⟨h, start⟩

theorem throw (e : Error) :
    c.Holds R (MonadExcept.throw e : Act α) (MonadExcept.throw e : Act β) :=
  fun _ _ _ => c.same e

/-- What does not look at the ledger gives the same on both sides. -/
theorem lift (r : Except Error α) : c.Holds (· = ·) (liftM r : Act α) (liftM r) := by
  cases r with
  | ok x => exact pure rfl
  | error e => exact throw e

theorem bind {f : α → Act γ} {g : β → Act δ} {T : γ → δ → Prop} (first : c.Holds R a b)
    (next : ∀ x y, R x y → c.Holds T (f x) (g y)) : c.Holds T (a >>= f) (b >>= g) := by
  intro l m start
  have run := first l m start
  unfold Pairs at run ⊢
  rw [outcome_bind, outcome_bind, after_bind, after_bind]
  cases hx : outcome a l with
  | ok x =>
    cases hy : outcome b m with
    | ok y =>
      rw [hx, hy] at run
      exact next x y run.1 _ _ run.2
    | error e =>
      rw [hx, hy] at run
      dsimp only
      cases outcome (f x) (after a l) with
      | ok _ => exact run
      | error _ => exact c.right run _
  | error e =>
    cases hy : outcome b m with
    | ok y =>
      rw [hx, hy] at run
      dsimp only
      cases outcome (g y) (after b m) with
      | ok _ => exact run
      | error _ => exact c.left run _
    | error f =>
      rw [hx, hy] at run
      exact run

theorem map {f : α → γ} {g : β → δ} {T : γ → δ → Prop} (h : c.Holds R a b)
    (next : ∀ x y, R x y → T (f x) (g y)) : c.Holds T (f <$> a) (g <$> b) := by
  rw [← bind_pure_comp, ← bind_pure_comp]
  exact h.bind fun x y related => pure (next x y related)

/-- Lists are gone through side by side. -/
theorem mapM {xs : List γ} {f : γ → Act α} {g : γ → Act β}
    (each : ∀ x ∈ xs, c.Holds R (f x) (g x)) :
    c.Holds (List.Forall₂ R) (xs.mapM f) (xs.mapM g) := by
  induction xs with
  | nil => exact pure .nil
  | cons x xs ih =>
    rw [List.mapM_cons, List.mapM_cons]
    refine (each x (by simp)).bind fun y z first => ?_
    exact (ih fun x h => each x (by simp [h])).bind fun ys zs rest => pure (.cons first rest)

end Holds

/-! ## Agreement -/

/-- Both run from one ledger and leave one ledger, or fail with the same error. -/
def agreement : Coupling where
  ledgers := Eq
  failures e f := e.isSome ∧ e = f
  same _ := ⟨rfl, rfl⟩
  left h := by simp at h
  right h := by simp at h

theorem Holds.refl {R : α → α → Prop} (reflexive : ∀ x, R x x) (a : Act α) :
    agreement.Holds R a a := by
  rintro l _ rfl
  unfold Pairs
  split
  all_goals simp_all [agreement]

/-- Actions that agree on one thing give it, or fail with one error. -/
theorem Holds.outcome_eq {a b : Act α} (h : agreement.Holds (· = ·) a b) (l : Ledger) :
    outcome a l = outcome b l := by
  have run := h l l rfl
  unfold Pairs at run
  split at run
  all_goals simp_all [agreement]

theorem Holds.compose {R : α → β → Prop} {S : β → γ → Prop} {T : α → γ → Prop} {k : Act γ}
    (related : ∀ x y z, R x y → S y z → T x z) (first : agreement.Holds R a b)
    (second : agreement.Holds S b k) : agreement.Holds T a k := by
  rintro l _ rfl
  have one := first l l rfl
  have two := second l l rfl
  unfold Pairs at one two ⊢
  cases hx : outcome a l <;> cases hy : outcome b l <;> cases hz : outcome k l <;>
    rw [hx, hy] at one <;> rw [hy, hz] at two
  case ok.ok.ok => exact ⟨related _ _ _ one.1 two.1, one.2.trans two.2⟩
  all_goals simp_all [agreement]

theorem Holds.trans {R : α → α → Prop} (transitive : ∀ x y z, R x y → R y z → R x z)
    {a b k : Act α} (first : agreement.Holds R a b) (second : agreement.Holds R b k) :
    agreement.Holds R a k :=
  first.compose transitive second

end Coupling

end RecordCheck
