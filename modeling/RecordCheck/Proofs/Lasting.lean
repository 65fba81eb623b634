import RecordCheck.Builtin
import RecordCheck.Proofs.Coupling

/-!
# Making rules again

A rule that is made a second time finds streams shorter than the first time. What a built-in rule
makes of arguments it makes again, whatever has been taken from streams since.

## Main definitions

* The order of ledgers: as much has been taken from every stream, or more.
* `Act.Grows`: nothing is put back into a stream.
* `Coupling.lasting`: what succeeds early succeeds later, or has no end.

## Main statements

* `Builtin.lasting_make`, `Builtin.grows_make`: built-in rules last and put nothing back.
-/
set_option autoImplicit false

namespace RecordCheck

open Act

/-! ## Streams -/

/-- As much has been taken from every stream, or more. -/
instance : LE Ledger := ⟨fun l m => ∀ serial, l.takenFrom serial ≤ m.takenFrom serial⟩

namespace Ledger

theorem le_refl (l : Ledger) : l ≤ l := fun _ => Nat.le_refl _

theorem le_trans {k l m : Ledger} (first : k ≤ l) (second : l ≤ m) : k ≤ m :=
  fun serial => Nat.le_trans (first serial) (second serial)

theorem takenFrom_take (l : Ledger) (serial count other : Nat) :
    (l.take serial count).takenFrom other =
      if other = serial then l.takenFrom serial + count else l.takenFrom other := by
  simp only [takenFrom, take, List.lookup_cons]
  by_cases same : other = serial
  · simp [same]
  · simp [same, beq_false_of_ne same]

theorem le_take (l : Ledger) (serial count : Nat) : l ≤ l.take serial count := by
  intro other
  rw [takenFrom_take]
  split
  · next same => subst same; omega
  · exact Nat.le_refl _

end Ledger

/-- An action that puts nothing back into a stream. -/
def Act.Grows {α : Type} (a : Act α) : Prop := ∀ l, l ≤ after a l

namespace Act.Grows

variable {α β : Type} {a : Act α}

theorem lift (r : Except Error α) : Grows (liftM r : Act α) := Ledger.le_refl

theorem pure (x : α) : Grows (Pure.pure x : Act α) := Ledger.le_refl

theorem bind {f : α → Act β} (first : Grows a) (next : ∀ x, Grows (f x)) : Grows (a >>= f) := by
  intro l
  rw [after_bind]
  split
  · exact Ledger.le_trans (first l) (next _ _)
  · exact first l

theorem map (f : α → β) (h : Grows a) : Grows (f <$> a) := by
  intro l
  rw [after_map]
  exact h l

theorem walk (v : Value) : Grows v.walk := by
  cases v with
  | stream serial entries => exact fun l => Ledger.le_take l _ _
  | _ => exact Ledger.le_refl

end Act.Grows

namespace Coupling

/-- What gives a result gives one again when more has been taken from streams, unless there is no
end to it now; and what had no end has none. -/
def lasting : Coupling where
  ledgers := (· ≤ ·)
  failures e f := f = some .endless ∨ (e.isSome ∧ e ≠ some .endless)
  same e := by
    by_cases endless : e = .endless
    · exact .inl (by rw [endless])
    · exact .inr ⟨rfl, by simpa using endless⟩
  left := by
    rintro e (h | ⟨-, h⟩) f
    · cases h
    · exact .inr ⟨rfl, h⟩
  right := by
    rintro f (h | ⟨h, -⟩) e
    · exact .inl h
    · cases h

/-- Nothing stands against an end that does not come. -/
theorem lasting_endless {α β : Type} {R : α → β → Prop} (a : Act α) :
    lasting.Holds R a (throw .endless) := by
  intro l m _
  unfold Coupling.Pairs
  rw [outcome_throw]
  split
  all_goals simp_all [lasting]

/-- A later walk meets the last of what an earlier one has met. -/
theorem lasting_walk (v : Value) :
    lasting.Holds (fun early late => late <:+ early) v.walk v.walk := by
  cases v with
  | stream serial entries =>
    intro l m before
    have less := before serial
    unfold Pairs
    change entries.drop (m.takenFrom serial) <:+ entries.drop (l.takenFrom serial) ∧
      l.take serial (entries.drop (l.takenFrom serial)).length ≤
        m.take serial (entries.drop (m.takenFrom serial)).length
    refine ⟨List.drop_suffix_drop_left _ less, fun other => ?_⟩
    rw [Ledger.takenFrom_take, Ledger.takenFrom_take, List.length_drop, List.length_drop]
    split
    · omega
    · exact before other
  | _ => exact (Holds.lift _).mono fun _ _ same => same ▸ List.suffix_refl _

/-- What gives a result gives one from the later values too, and failures without an end are none
of its own. -/
theorem lasting_lift {α : Type} {R : α → α → Prop} {early late : Except Error α}
    (ok : ∀ x, early = .ok x → ∃ y, late = .ok y ∧ R x y)
    (failed : ∀ e, early = .error e → e ≠ .endless) :
    lasting.Holds R (liftM early : Act α) (liftM late) := by
  intro l m before
  cases early with
  | ok x =>
    obtain ⟨y, rfl, related⟩ := ok x rfl
    exact ⟨related, before⟩
  | error e =>
    have other := failed e rfl
    cases late <;> exact .inr ⟨rfl, by simpa using other⟩

end Coupling

/-! ## Built-in rules -/

namespace PatternFlags

theorem texts?_suffix {early late : List Value} (suffix : late <:+ early) {names : List String}
    (read : texts? early = some names) : ∃ rest, texts? late = some rest ∧ rest <:+ names := by
  induction early generalizing names with
  | nil =>
    obtain rfl := List.suffix_nil.1 suffix
    exact ⟨names, read, List.suffix_refl _⟩
  | cons v vs ih =>
    rcases List.suffix_cons_iff.1 suffix with rfl | inside
    · exact ⟨names, read, List.suffix_refl _⟩
    · cases v with
      | str s =>
        obtain ⟨tail, htail, rfl⟩ := Option.map_eq_some_iff.1 read
        obtain ⟨rest, hrest, shorter⟩ := ih inside htail
        exact ⟨rest, hrest, shorter.trans (List.suffix_cons _ _)⟩
      | _ => cases read

theorem ofLetters_suffix {early late : List String} (suffix : late <:+ early)
    {flags : PatternFlags} (read : ofLetters early = .ok flags) :
    ∃ rest, ofLetters late = .ok rest := by
  unfold ofLetters at read ⊢
  have known : early.filter (fun letter => (ofLetter? letter).isNone) = [] := by
    split at read
    · next known => exact known
    · cases read
  have rest := List.sublist_nil.1 (known ▸ suffix.sublist.filter fun letter =>
    (ofLetter? letter).isNone)
  rw [rest]
  exact ⟨_, rfl⟩

/-- Letters are flags when they are the last of some that are. -/
theorem ofValue_stream {serial : Nat} {early late : List Value} (suffix : late <:+ early)
    {flags : PatternFlags} (read : ofValue (.stream serial early) = .ok flags) :
    ofValue (.stream serial late) = .ok flags := by
  simp only [ofValue, Value.members?, Option.bind_some] at read ⊢
  cases names : texts? early with
  | none => simp [names] at read
  | some letters =>
    obtain ⟨rest, hrest, shorter⟩ := texts?_suffix suffix names
    rw [names] at read
    rw [hrest]
    cases known : ofLetters letters with
    | error e => simp [known, bind, Except.bind] at read
    | ok all =>
      obtain ⟨some, hsome⟩ := ofLetters_suffix shorter known
      simp only [known, hsome, bind, Except.bind, pure, Except.pure] at read ⊢
      exact read

theorem ofValue_failed {v : Value} {e : Error} (failed : ofValue v = .error e) : e ≠ .endless := by
  simp only [ofValue, bind, Except.bind, pure, Except.pure] at failed
  split at failed
  · cases failed
    simp [Error.wrongType, Error.endless]
  · split at failed
    · next unread =>
      cases failed
      unfold ofLetters at unread
      split at unread <;> cases unread
      simp [Error.endless]
    · cases failed

end PatternFlags

namespace Match

/-- What is left of a stream of flags, or the flags as they are. -/
def flagsLeft : Value → Act Value
  | .stream serial entries => Value.stream serial <$> (Value.stream serial entries).walk
  | flags => return flags

theorem like_eq (pattern flags : Value) : like pattern flags = do
    let letters ← PatternFlags.ofValue (← flagsLeft flags)
    return ⟨← Pattern.ofValue pattern letters, .str Code.wrongFormat⟩ := by
  cases flags <;> rfl

theorem lasting_like (pattern flags : Value) :
    Coupling.lasting.Holds (· = ·) (like pattern flags) (like pattern flags) := by
  have left : Coupling.lasting.Holds
      (fun v w => ∀ letters, PatternFlags.ofValue v = .ok letters →
        PatternFlags.ofValue w = .ok letters) (flagsLeft flags) (flagsLeft flags) := by
    cases flags with
    | stream serial entries =>
      exact (Coupling.lasting_walk (.stream serial entries)).map fun _ _ suffix letters =>
        PatternFlags.ofValue_stream suffix
    | _ => exact .pure fun _ => id
  rw [like_eq]
  refine left.bind fun v w still => ?_
  refine (Coupling.lasting_lift (R := (· = ·))
    (fun letters read => ⟨letters, still letters read, rfl⟩)
    fun _ => PatternFlags.ofValue_failed).bind ?_
  rintro letters _ rfl
  refine (Coupling.Holds.lift (Pattern.ofValue pattern letters)).bind ?_
  rintro p _ rfl
  exact .pure rfl

theorem grows_like (pattern flags : Value) : Act.Grows (like pattern flags) := by
  have left : Act.Grows (flagsLeft flags) := by
    cases flags with
    | stream serial entries => exact .map _ (.walk _)
    | _ => exact .pure _
  rw [like_eq]
  exact left.bind fun v => .bind (.lift _) fun letters => .bind (.lift _) fun p => .pure _

end Match

/-- Two rules are one draft or both finished; if they are to be exactly alike, they are the same. -/
inductive Rule.SameForm (exact : Prop) : Rule → Rule → Prop
  | draft (d : Draft) : SameForm exact (.draft d) (.draft d)
  | finished {r s : Rule} : r.isDraft = false → s.isDraft = false → (exact → r = s) →
    SameForm exact r s

theorem Rule.SameForm.refl {exact : Prop} (r : Rule) : SameForm exact r r := by
  cases r with
  | draft d => exact .draft d
  | _ => exact .finished rfl rfl fun _ => rfl

namespace Builtin

/-- Only two built-in rules look into streams when they are made. -/
theorem make_lift {b : Builtin} (noOneOf : b ≠ oneOf) (noLike : b ≠ like) (args : List Value) :
    ∃ r : Except Error Rule, b.make args = liftM r := by
  have made {α : Type} (r : Except Error α) (f : α → Rule) :
      (do return f (← r) : Act Rule) = liftM (r.map f) := by cases r <;> rfl
  unfold make
  split
  case h_4 | h_14 | h_15 => contradiction
  case h_34 => exact ⟨.error .wrongType, rfl⟩
  all_goals first | exact ⟨.ok _, rfl⟩ | exact ⟨_, made _ _⟩

/-- A built-in rule that makes something of arguments makes the like of it later. -/
theorem lasting_make (b : Builtin) (args : List Value) :
    Coupling.lasting.Holds (Rule.SameForm False) (b.make args) (b.make args) := by
  by_cases isOneOf : b = oneOf
  · subst isOneOf
    unfold make
    split
    case h_4 =>
      refine Coupling.Holds.map (R := fun _ _ => True) ?_ fun _ _ _ => .finished rfl rfl False.elim
      exact (Coupling.lasting_walk _).bind fun _ _ _ => .pure trivial
    case h_34 => exact .throw _
    all_goals contradiction
  by_cases isLike : b = like
  · subst isLike
    unfold make
    split
    case h_14 | h_15 => exact (Match.lasting_like _ _).map fun _ _ _ => .finished rfl rfl False.elim
    case h_34 => exact .throw _
    all_goals contradiction
  · obtain ⟨r, same⟩ := make_lift isOneOf isLike args
    rw [same]
    exact (Coupling.Holds.lift r).mono fun r _ same => same ▸ .refl r

theorem grows_make (b : Builtin) (args : List Value) : Act.Grows (b.make args) := by
  by_cases isOneOf : b = oneOf
  · subst isOneOf
    unfold make
    split
    case h_4 => exact .map _ (.bind (.walk _) fun _ => .pure _)
    case h_34 => exact .lift (.error .wrongType)
    all_goals contradiction
  by_cases isLike : b = like
  · subst isLike
    unfold make
    split
    case h_14 | h_15 => exact .map _ (Match.grows_like _ _)
    case h_34 => exact .lift (.error .wrongType)
    all_goals contradiction
  · obtain ⟨r, same⟩ := make_lift isOneOf isLike args
    rw [same]
    exact .lift r

end Builtin

end RecordCheck
