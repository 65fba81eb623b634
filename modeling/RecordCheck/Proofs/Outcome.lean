import Mathlib.Data.List.Forall2
import RecordCheck.Ledger

/-!
# Outcomes of actions

An action gives a result or an error, which may depend on what the ledger says about streams, and
leaves a ledger behind. Properties of actions are stated of what they give from every ledger, so
that they hold whatever has been taken from streams before.

## Main definitions

* `Act.outcome`, `Act.after`: what an action gives from a ledger, and the ledger it leaves.
* `Act.firstOf`: two actions in turn, up to the first that gives something.
* `Act.Ensures`: a property of the results and a property of the errors of an action.
-/
set_option autoImplicit false

namespace RecordCheck

/-- What stands on the right of a pairing has a partner on the left. -/
theorem exists_partner {α β : Type} {R : α → β → Prop} {xs : List α} {ys : List β}
    (h : List.Forall₂ R xs ys) {y : β} (member : y ∈ ys) : ∃ x ∈ xs, R x y := by
  induction h with
  | nil => cases member
  | cons first _ ih =>
    rcases List.mem_cons.1 member with rfl | member
    · exact ⟨_, by simp, first⟩
    · obtain ⟨x, hx, related⟩ := ih member
      exact ⟨x, by simp [hx], related⟩

theorem exists_of_map_ok {ε α β : Type} {x : Except ε α} {f : α → β} {y : β}
    (h : x.map f = .ok y) : ∃ a, x = .ok a ∧ f a = y := by
  cases x with
  | ok a => exact ⟨a, rfl, Except.ok.inj h⟩
  | error e => cases h

section Errors

variable {ε α β : Type} {P : ε → Prop} {first : Except ε α} (h : ∀ e, first = .error e → P e)
include h

/-- Two steps fail as one of them does. -/
theorem forall_error_bind {next : α → Except ε β} (h' : ∀ x e, next x = .error e → P e) :
    ∀ e, first >>= next = .error e → P e := by
  cases first with
  | ok x => exact h' x
  | error e =>
    rintro _ ⟨⟩
    exact h e rfl

theorem forall_error_map (f : α → β) : ∀ e, first.map f = .error e → P e := by
  cases first with
  | ok x => nofun
  | error e =>
    rintro _ ⟨⟩
    exact h e rfl

end Errors

namespace Act

variable {α β : Type}

/-- What an action gives from a ledger. -/
def outcome (a : Act α) (ledger : Ledger) : Except Error α := (a.run.run ledger).1

/-- The ledger that an action leaves. -/
def after (a : Act α) (ledger : Ledger) : Ledger := (a.run.run ledger).2

theorem lift_ok (x : α) : (liftM (Except.ok x : Except Error α) : Act α) = pure x := rfl

/-- What the first of two actions gives, or else what the second gives. -/
def firstOf (a b : Act (Option α)) : Act (Option α) := do
  match ← a with
  | some x => return some x
  | none => b

/-! ## Steps -/

section Steps

variable (ledger : Ledger)

@[simp] theorem outcome_pure (x : α) : outcome (pure x) ledger = .ok x := rfl

@[simp] theorem after_pure (x : α) : after (pure x) ledger = ledger := rfl

@[simp] theorem outcome_throw (e : Error) : outcome (throw e : Act α) ledger = .error e := rfl

@[simp] theorem after_throw (e : Error) : after (throw e : Act α) ledger = ledger := rfl

@[simp] theorem outcome_lift (r : Except Error α) : outcome (liftM r : Act α) ledger = r := rfl

@[simp] theorem after_lift (r : Except Error α) : after (liftM r : Act α) ledger = ledger := rfl

theorem outcome_bind (a : Act α) (f : α → Act β) :
    outcome (a >>= f) ledger =
      match outcome a ledger with
      | .ok x => outcome (f x) (after a ledger)
      | .error e => .error e := by
  simp only [outcome, after, ExceptT.run_bind, StateT.run_bind]
  rcases StateT.run (ExceptT.run a) ledger with ⟨r, l⟩
  cases r <;> rfl

theorem after_bind (a : Act α) (f : α → Act β) :
    after (a >>= f) ledger =
      match outcome a ledger with
      | .ok x => after (f x) (after a ledger)
      | .error _ => after a ledger := by
  simp only [outcome, after, ExceptT.run_bind, StateT.run_bind]
  rcases StateT.run (ExceptT.run a) ledger with ⟨r, l⟩
  cases r <;> rfl

variable {ledger}

/-- An action in two steps succeeds when the first step does and then the second. -/
theorem outcome_bind_ok {a : Act α} {f : α → Act β} {y : β} :
    outcome (a >>= f) ledger = .ok y ↔
      ∃ x, outcome a ledger = .ok x ∧ outcome (f x) (after a ledger) = .ok y := by
  rw [outcome_bind]
  cases outcome a ledger <;> simp

theorem outcome_map (f : α → β) (a : Act α) :
    outcome (f <$> a) ledger = (outcome a ledger).map f := by
  rw [← bind_pure_comp, outcome_bind]
  cases outcome a ledger <;> rfl

theorem outcome_map_ok {f : α → β} {a : Act α} {y : β} :
    outcome (f <$> a) ledger = .ok y ↔ ∃ x, outcome a ledger = .ok x ∧ f x = y := by
  rw [outcome_map]
  cases outcome a ledger <;> simp [Except.map]

theorem outcome_map_error {f : α → β} {a : Act α} {e : Error} :
    outcome (f <$> a) ledger = .error e ↔ outcome a ledger = .error e := by
  rw [outcome_map]
  cases outcome a ledger <;> simp [Except.map]

@[simp] theorem after_map (f : α → β) (a : Act α) :
    after (f <$> a) ledger = after a ledger := by
  rw [← bind_pure_comp, after_bind]
  cases outcome a ledger <;> rfl

/-- An error that is caught is dealt with from the ledger that the failed action leaves. -/
theorem outcome_tryCatch (a : Act α) (handle : Error → Act α) :
    outcome (tryCatch a handle) ledger =
      match outcome a ledger with
      | .ok x => .ok x
      | .error e => outcome (handle e) (after a ledger) := by
  simp only [outcome, after, ExceptT.run_tryCatch, StateT.run_bind]
  rcases StateT.run (ExceptT.run a) ledger with ⟨r, l⟩
  cases r <;> rfl

section Head

variable {f : α → Act β} {x : α} {y : β} (first : outcome (f x) ledger = .ok y) (xs : List α)
include first

theorem outcome_mapM_cons : outcome ((x :: xs).mapM f) ledger =
    (outcome (xs.mapM f) (after (f x) ledger)).map (y :: ·) := by
  rw [List.mapM_cons, outcome_bind, first]
  dsimp only
  rw [bind_pure_comp, outcome_map]

theorem after_mapM_cons :
    after ((x :: xs).mapM f) ledger = after (xs.mapM f) (after (f x) ledger) := by
  rw [List.mapM_cons, after_bind, first]
  dsimp only
  rw [bind_pure_comp, after_map]

variable {xs}

theorem outcome_mapM_cons_ok {zs : List β} : outcome ((x :: xs).mapM f) ledger = .ok zs ↔
    ∃ ys, outcome (xs.mapM f) (after (f x) ledger) = .ok ys ∧ y :: ys = zs := by
  rw [outcome_mapM_cons first, ← outcome_map, outcome_map_ok]

theorem outcome_mapM_cons_error {e : Error} : outcome ((x :: xs).mapM f) ledger = .error e ↔
    outcome (xs.mapM f) (after (f x) ledger) = .error e := by
  rw [outcome_mapM_cons first, ← outcome_map, outcome_map_error]

end Head

/-- What comes of each entry of a list comes from the ledger that the entries before it leave. -/
theorem mapM_ok {f : α → Act β} {xs : List α} {ys : List β}
    (h : outcome (xs.mapM f) ledger = .ok ys) : ys.length = xs.length ∧
      ∀ i x, xs[i]? = some x → ∃ y, ys[i]? = some y ∧
        outcome (f x) (after ((xs.take i).mapM f) ledger) = .ok y := by
  induction xs generalizing ys ledger with
  | nil =>
    cases h
    exact ⟨rfl, by simp⟩
  | cons x xs ih =>
    rw [List.mapM_cons] at h
    obtain ⟨y, first, h⟩ := outcome_bind_ok.1 h
    obtain ⟨rest, others, h⟩ := outcome_bind_ok.1 h
    cases h
    obtain ⟨length, each⟩ := ih others
    refine ⟨by simp [length], fun i z member => ?_⟩
    cases i with
    | zero =>
      obtain rfl : x = z := by simpa using member
      exact ⟨y, rfl, first⟩
    | succ i =>
      obtain ⟨w, hw, done⟩ := each i z (by simpa using member)
      refine ⟨w, by simpa using hw, ?_⟩
      rw [List.take_succ_cons, after_mapM_cons first]
      exact done

/-- What comes of a list comes of each entry of it, from some ledger. -/
theorem exists_of_mapM_ok {f : α → Act β} {xs : List α} {ys : List β}
    (h : outcome (xs.mapM f) ledger = .ok ys) {x : α} (member : x ∈ xs) :
    ∃ ledger y, outcome (f x) ledger = .ok y := by
  obtain ⟨i, at_i⟩ := List.getElem?_of_mem member
  obtain ⟨y, -, done⟩ := (mapM_ok h).2 i x at_i
  exact ⟨_, y, done⟩

/-- A list fails as the first of its entries that fails, where the entries before that one have been
gone through. -/
theorem mapM_error_iff {f : α → Act β} {xs : List α} {e : Error} :
    outcome (xs.mapM f) ledger = .error e ↔ ∃ before x behind ys, xs = before ++ x :: behind ∧
      outcome (before.mapM f) ledger = .ok ys ∧
      outcome (f x) (after (before.mapM f) ledger) = .error e := by
  constructor
  · intro failed
    induction xs generalizing ledger with
    | nil => cases failed
    | cons x xs ih =>
      cases first : outcome (f x) ledger with
      | error e' =>
        rw [List.mapM_cons, outcome_bind, first] at failed
        cases failed
        exact ⟨[], x, xs, [], rfl, rfl, first⟩
      | ok y =>
        obtain ⟨before, z, behind, ys, rfl, done, last⟩ :=
          ih ((outcome_mapM_cons_error first).1 failed)
        refine ⟨x :: before, z, behind, y :: ys, rfl,
          (outcome_mapM_cons_ok first).2 ⟨ys, done, rfl⟩, ?_⟩
        rw [after_mapM_cons first]
        exact last
  · rintro ⟨before, x, behind, ys, rfl, done, failed⟩
    rw [List.mapM_append, outcome_bind, done]
    dsimp only
    rw [List.mapM_cons, bind_assoc, outcome_bind, failed]

theorem mapM_singleton_ok {f : α → Act β} {x : α} {ys : List β}
    (h : outcome ([x].mapM f) ledger = .ok ys) : ∃ y, ys = [y] ∧ outcome (f x) ledger = .ok y := by
  obtain ⟨length, each⟩ := mapM_ok h
  obtain ⟨y, at_0, done⟩ := each 0 x rfl
  obtain ⟨_, rfl⟩ := List.length_eq_one_iff.1 length
  exact ⟨y, by simpa using at_0, done⟩

end Steps

/-! ## What an action ensures -/

/-- From every ledger, the results of an action have one property and its errors another. -/
def Ensures (a : Act α) (result : α → Prop) (failure : Error → Prop) : Prop :=
  ∀ ledger, match outcome a ledger with
    | .ok x => result x
    | .error e => failure e

/-- Nothing is asked of errors. -/
abbrev Yields (a : Act α) (result : α → Prop) : Prop := Ensures a result fun _ => True

theorem yields_any (a : Act α) : Yields a fun _ => True := by
  intro ledger
  split <;> trivial

namespace Ensures

variable {a : Act α} {P Q : α → Prop} {E F : Error → Prop} {f : α → Act β} {R : β → Prop}
  {ledger : Ledger}

theorem of_ok {x : α} (h : Ensures a P E) (ok : outcome a ledger = .ok x) : P x := by
  have := h ledger
  rwa [ok] at this

theorem of_error {e : Error} (h : Ensures a P E) (failed : outcome a ledger = .error e) : E e := by
  have := h ledger
  rwa [failed] at this

/-- A property of the outcomes is enough. -/
theorem intro (ok : ∀ ledger x, outcome a ledger = .ok x → P x)
    (failed : ∀ ledger e, outcome a ledger = .error e → E e) : Ensures a P E := by
  intro ledger
  split
  · exact ok ledger _ ‹_›
  · exact failed ledger _ ‹_›

theorem mono (h : Ensures a P E) (result : ∀ x, P x → Q x) (failure : ∀ e, E e → F e) :
    Ensures a Q F :=
  intro (fun _ _ ok => result _ (h.of_ok ok)) fun _ _ failed => failure _ (h.of_error failed)

theorem and (first : Ensures a P E) (second : Ensures a Q E) :
    Ensures a (fun x => P x ∧ Q x) E :=
  intro (fun _ _ ok => ⟨first.of_ok ok, second.of_ok ok⟩) fun _ _ failed => first.of_error failed

theorem yields (h : Ensures a P E) : Yields a P := h.mono (fun _ h => h) fun _ _ => trivial

theorem pure {x : α} (h : P x) : Ensures (Pure.pure x) P E := fun _ => h

theorem throw {e : Error} (h : E e) : Ensures (MonadExcept.throw e : Act α) P E := fun _ => h

theorem lift {r : Except Error α} (ok : ∀ x, r = .ok x → P x) (failed : ∀ e, r = .error e → E e) :
    Ensures (liftM r : Act α) P E :=
  intro (fun _ => ok) fun _ => failed

/-- The second step may count on what the first ensures. -/
theorem bind (first : Ensures a P E) (next : ∀ x, P x → Ensures (f x) R E) :
    Ensures (a >>= f) R E := by
  intro ledger
  rw [outcome_bind]
  cases h : outcome a ledger with
  | ok x => exact next x (first.of_ok h) _
  | error e => exact first.of_error h

theorem map {g : α → β} (h : Ensures a (fun x => R (g x)) E) : Ensures (g <$> a) R E := by
  rw [← bind_pure_comp]
  exact h.bind fun _ => pure

theorem tryCatch {handle : Error → Act α} (first : Ensures a P E)
    (handled : ∀ e, E e → Ensures (handle e) P F) :
    Ensures (MonadExcept.tryCatch a handle) P F := by
  intro ledger
  rw [show outcome (MonadExcept.tryCatch a handle) ledger = _ from outcome_tryCatch a handle]
  cases h : outcome a ledger with
  | ok x => exact first.of_ok h
  | error e => exact handled e (first.of_error h) _

/-- Nothing is caught where every error is thrown again. -/
theorem tryCatch_eq {handle : Error → Act α} (first : Ensures a P E)
    (passed : ∀ e, E e → handle e = MonadExcept.throw e) :
    MonadExcept.tryCatch a handle = a := by
  funext ledger
  change (MonadExcept.tryCatch a handle).run.run ledger = a.run.run ledger
  rw [ExceptT.run_tryCatch, StateT.run_bind]
  cases run : a.run.run ledger with
  | mk r l =>
    cases r with
    | ok x => rfl
    | error e =>
      have failed : outcome a ledger = .error e := by rw [outcome, run]
      exact congrArg (fun act : Act α => act.run.run l) (passed e (first.of_error failed))

/-- Second steps that agree on what the first step gives may be exchanged. -/
theorem bind_congr {k : α → Act β} (first : Ensures a P E) (same : ∀ x, P x → f x = k x) :
    a >>= f = a >>= k := by
  funext ledger
  change (a >>= f).run.run ledger = (a >>= k).run.run ledger
  simp only [ExceptT.run_bind, StateT.run_bind]
  cases run : a.run.run ledger with
  | mk r l =>
    cases r with
    | ok x =>
      have ok : outcome a ledger = .ok x := by rw [outcome, run]
      exact congrArg (fun act : Act β => act.run.run l) (same x (first.of_ok ok))
    | error e => rfl

/-- What is ensured for each entry of a list is ensured entry by entry. -/
theorem mapM {xs : List α} {S : α → β → Prop} (each : ∀ x ∈ xs, Ensures (f x) (S x) E) :
    Ensures (xs.mapM f) (List.Forall₂ S xs) E := by
  induction xs with
  | nil => exact pure .nil
  | cons x xs ih =>
    rw [List.mapM_cons]
    refine (each x (by simp)).bind fun y hy => ?_
    exact (ih fun x h => each x (by simp [h])).bind fun ys hys => pure (.cons hy hys)

end Ensures

end Act

end RecordCheck
