import RecordCheck.Pattern.Basic

/-!
# Flags in the steps of the parser

The parser keeps the flags for the whole pattern beside the tokens. Hardly a step looks at them: all
that they decide is whether blanks and comments between parts are skipped. Only groups of flags at
the very start of a pattern change them.

## Main definitions

* `Pattern.Reader.reflag`: a reader with other flags.
* `Pattern.Parse.Deaf`: a step that gives the same from other flags, and leaves the flags alone.
* `Pattern.Parse.InStep`, `Pattern.Parse.Settles`: a step that gives the same from other flags, and
  may change them.

## Main statements

* `Pattern.Parse.alternatives_settles`, `Pattern.Parse.parts_settles`,
  `Pattern.Parse.groupNode_settles`: sequences and groups are read alike from flags that agree on
  skipping blanks, and change no flags after the first part.
-/
set_option autoImplicit false

namespace RecordCheck

/-- Whether two ways of setting the flags agree on skipping blanks, where that is asked for. -/
def PatternFlags.Agree (blanks : Bool) (flags others : PatternFlags) : Prop :=
  blanks → flags.verbose = others.verbose

namespace Pattern

/-- A reader with other flags for the whole pattern. -/
def Reader.reflag (r : Reader) (flags : PatternFlags) (conflict : Bool) : Reader :=
  { r with flags, conflict }

/-- What depends on a reader, but not on its flags. -/
abbrev Reader.Blind {γ : Type} (blanks : Bool) (k : Reader → γ) : Prop :=
  ∀ (r : Reader) flags conflict, flags.Agree blanks r.flags → k (r.reflag flags conflict) = k r

namespace Parse

variable {α β : Type} {a : Parse α} {f : α → Parse β} {r s t : Reader} {x : α} {blanks : Bool}

theorem bind_ok {y : β} : (a >>= f).run r = .ok (y, s) ↔
    ∃ x t, a.run r = .ok (x, t) ∧ (f x).run t = .ok (y, s) := by
  rw [StateT.run_bind]
  cases a.run r with
  | error e => simp [bind, Except.bind]
  | ok p =>
    obtain ⟨x, t⟩ := p
    simp [bind, Except.bind, and_assoc]

/-- A step that gives the same from other flags that agree on skipping blanks, and leaves the flags
alone. -/
def Deaf (blanks : Bool) (a : Parse α) : Prop :=
  ∀ ⦃r x s⦄, a.run r = .ok (x, s) → ∀ flags conflict, flags.Agree blanks r.flags →
    a.run (r.reflag flags conflict) = .ok (x, s.reflag flags conflict)

namespace Deaf

theorem keeps (h : Deaf blanks a) (ran : a.run r = .ok (x, s)) : s.flags = r.flags := by
  have again := (h ran r.flags r.conflict fun _ => rfl).symm.trans ran
  simp only [Except.ok.injEq, Prod.mk.injEq, true_and] at again
  rw [← again]
  rfl

theorem pure (x : α) : Deaf blanks (Pure.pure x) := by
  rintro r _ _ ⟨⟩ flags conflict _
  rfl

theorem throw (e : Misfit) : Deaf blanks (MonadExcept.throw e : Parse α) :=
  fun _ _ _ ran => nomatch ran

theorem fail : Deaf blanks (Parse.fail : Parse α) := .throw _

theorem bind (first : Deaf blanks a) (next : ∀ x, Deaf blanks (f x)) : Deaf blanks (a >>= f) := by
  intro r y s ran flags conflict same
  obtain ⟨x, t, one, two⟩ := bind_ok.1 ran
  refine bind_ok.2 ⟨x, _, first one flags conflict same, next x two flags conflict ?_⟩
  rwa [first.keeps one]

/-- Nothing comes after a failure. -/
theorem fail_bind {k : Unit → Parse β} : Deaf blanks (Parse.fail >>= k) :=
  fun _ _ _ ran => nomatch ran

theorem ite {c : Prop} [Decidable c] {b : Parse α} (yes : Deaf blanks a) (no : Deaf blanks b) :
    Deaf blanks (if c then a else b) := by
  split
  · exact yes
  · exact no

theorem get {k : Reader → Parse β} (blind : Reader.Blind blanks k) (next : ∀ r, Deaf blanks (k r)) :
    Deaf blanks (get >>= k) := by
  intro r y s ran flags conflict same
  change (k (r.reflag flags conflict)).run _ = _
  rw [blind r flags conflict same]
  exact next r ran flags conflict same

theorem modify {g : Reader → Reader} (blind : ∀ (r : Reader) flags conflict,
    g (r.reflag flags conflict) = (g r).reflag flags conflict) : Deaf blanks (modify g) := by
  rintro r _ _ ⟨⟩ flags conflict _
  exact congrArg (fun t => Except.ok ((), t)) (blind r flags conflict)

end Deaf

/-- A step that recalls an earlier reader, since which the flags have stayed. -/
def Recalls (blanks : Bool) (k : Reader → Parse β) : Prop :=
  ∀ ⦃r t : Reader⦄ ⦃y s⦄, t.flags = r.flags → (k r).run t = .ok (y, s) → ∀ flags conflict,
    flags.Agree blanks r.flags →
      (k (r.reflag flags conflict)).run (t.reflag flags conflict) = .ok (y, s.reflag flags conflict)

namespace Recalls

theorem of_deaf {k : Reader → Parse β} (deaf : ∀ r, Deaf blanks (k r))
    (blind : Reader.Blind blanks k) : Recalls blanks k := by
  intro r t y s kept ran flags conflict same
  rw [blind r flags conflict same]
  exact deaf r ran flags conflict (kept ▸ same)

theorem bind {b : Reader → Parse α} {f : Reader → α → Parse β} (deaf : ∀ r, Deaf blanks (b r))
    (blind : Reader.Blind blanks b) (next : ∀ x, Recalls blanks fun r => f r x) :
    Recalls blanks fun r => b r >>= f r := by
  intro r t y s kept ran flags conflict same
  obtain ⟨x, u, one, two⟩ := bind_ok.1 ran
  have first := of_deaf deaf blind kept one flags conflict same
  exact bind_ok.2 ⟨x, _, first, next x ((deaf r).keeps one ▸ kept) two flags conflict same⟩

/-- The earlier reader is put back. -/
theorem set (x : β) : Recalls blanks fun r => do set r; return x := by
  rintro r t _ _ _ ⟨⟩ flags conflict _
  rfl

end Recalls

theorem Deaf.recall {k : Reader → Parse β} (recalls : Recalls blanks k) :
    Deaf blanks (MonadState.get >>= k) :=
  fun _ _ _ ran => recalls rfl ran

/-! ## Tokens -/

theorem peek_deaf : Deaf blanks peek := .get (fun _ _ _ _ => rfl) fun _ => .pure _

theorem next_deaf : Deaf blanks next := by
  intro r x s ran flags conflict _
  obtain ⟨tokens, _⟩ := r
  cases tokens <;> cases ran <;> rfl

theorem accept_deaf (c : Char) : Deaf blanks (accept c) :=
  peek_deaf.bind fun _ => .ite (next_deaf.bind fun _ => .pure _) (.pure _)

theorem expect_deaf (c : Char) : Deaf blanks (expect c) :=
  (accept_deaf c).bind fun _ => .ite .fail (.pure _)

theorem takeWhile_deaf (most : Nat) (test : Char → Bool) : Deaf blanks (takeWhile most test) := by
  rintro r _ _ ⟨⟩ flags conflict _
  rfl

theorem takeUntil_deaf (terminator : Char) : Deaf blanks (takeUntil terminator) := by
  intro r x s ran flags conflict _
  simp only [takeUntil, bind_ok] at ran ⊢
  obtain ⟨_, _, ⟨⟩, ran⟩ := ran
  refine ⟨_, _, rfl, ?_⟩
  split at ran
  · cases ran
  · cases ran
  · next found =>
    cases ran
    simp only [Reader.reflag, found]
    rfl

theorem nested_deaf {body : Parse α} (levels : Nat) (inner : Deaf blanks body) :
    Deaf blanks (nested levels body) := by
  have rest (outer : Nat) : Deaf blanks (do
      modify fun r => { r with depth := outer + levels }
      let result ← body
      modify fun r => { r with depth := outer }
      return result) :=
    .bind (.modify fun _ _ _ => rfl) fun _ => inner.bind fun _ =>
      .bind (.modify fun _ _ _ => rfl) fun _ => .pure _
  exact .get (fun _ _ _ _ => rfl) fun _ => .ite (.bind (.throw _) fun _ => rest _) (rest _)

/-! ## Groups -/

theorem checkBehind_deaf (number : Nat) : Deaf blanks (checkBehind number) := by
  unfold checkBehind
  refine .get (fun _ _ _ _ => rfl) fun r => ?_
  split
  · exact .ite .fail (.pure _)
  · exact .pure _

theorem backrefTo_deaf (number : Nat) : Deaf blanks (backrefTo number) :=
  .get (fun _ _ _ _ => rfl) fun _ =>
    .ite .fail_bind ((checkBehind_deaf number).bind fun _ => .pure _)

theorem openGroup_deaf (name : Option (List Char)) : Deaf blanks (openGroup name) := by
  intro r x s ran flags conflict _
  simp only [openGroup, bind_ok] at ran ⊢
  obtain ⟨_, _, ⟨⟩, ran⟩ := ran
  refine ⟨_, _, rfl, ?_⟩
  cases name with
  | none =>
    cases ran
    rfl
  | some cs =>
    dsimp only at ran ⊢
    split at ran
    · cases ran
    · next free =>
      cases ran
      rw [if_neg (by exact free)]
      rfl

theorem closeGroup_deaf (number : Nat) (body : List Node) : Deaf blanks (closeGroup number body) :=
  .modify fun _ _ _ => rfl

theorem groupName_deaf (terminator : Char) : Deaf blanks (groupName terminator) :=
  (takeUntil_deaf terminator).bind fun _ => .ite (.pure _) .fail

theorem conditionGroup_deaf : Deaf blanks conditionGroup := by
  refine (takeUntil_deaf _).bind fun cs => .ite ?_ ?_
  · refine .get (fun _ _ _ _ => rfl) fun r => ?_
    split
    · exact .pure _
    · exact .fail
  · split
    · exact .ite (.bind (.modify fun _ _ _ => rfl) fun _ => .pure _) .fail
    · exact .fail

/-! ## Escapes -/

theorem hexCode_deaf (count : Nat) : Deaf blanks (hexCode count) :=
  (takeWhile_deaf _ _).bind fun _ => .ite (.pure _) .fail

theorem namedCode_deaf : Deaf blanks namedCode := by
  unfold namedCode
  refine (expect_deaf _).bind fun _ => (takeUntil_deaf _).bind fun cs => ?_
  split
  · exact .pure _
  · exact .fail

theorem numericEscape_deaf (c : Char) : Deaf blanks (numericEscape c) := by
  have hex (count : Nat) : Deaf blanks (some <$> hexCode count) :=
    (hexCode_deaf count).bind fun _ => .pure _
  exact .get (fun _ _ _ _ => rfl) fun _ => .ite (hex 2) <| .ite (hex 4) <| .ite (hex 8) <|
    .ite (namedCode_deaf.bind fun _ => .pure _) (.pure _)

theorem plainEscape_deaf (c : Char) : Deaf blanks (plainEscape c) := .ite .fail (.pure _)

theorem octalCode_deaf (first : Char) : Deaf blanks (octalCode first) :=
  (takeWhile_deaf _ _).bind fun _ => .ite (.pure _) .fail

theorem setEscape_deaf (c : Char) : Deaf blanks (setEscape c) := by
  refine .ite (.pure _) ?_
  split
  · exact .pure _
  · exact .pure _
  refine (numericEscape_deaf c).bind fun code => ?_
  split
  · exact .pure _
  · exact .ite ((octalCode_deaf c).bind fun _ => .pure _)
      ((plainEscape_deaf c).bind fun _ => .pure _)

theorem digitEscape_deaf (c : Char) : Deaf blanks (digitEscape c) := by
  unfold digitEscape
  refine (takeWhile_deaf _ _).bind fun more => ?_
  split
  · extract_lets rest
    have rest_deaf (third : List Char) : Deaf blanks (rest third) := by
      unfold rest
      split
      · exact .ite (.pure _) .fail
      · exact backrefTo_deaf _
    exact .ite ((takeWhile_deaf _ _).bind rest_deaf) (.bind (.pure _) rest_deaf)
  · exact backrefTo_deaf _

theorem escape_deaf (c : Char) : Deaf blanks (escape c) := by
  unfold escape
  split
  · exact .pure _
  · exact .pure _
  · exact .pure _
  refine (numericEscape_deaf c).bind fun code => ?_
  split
  · exact .pure _
  · exact .ite ((takeWhile_deaf _ _).bind fun _ => .pure _) <|
      .ite (digitEscape_deaf c) ((plainEscape_deaf c).bind fun _ => .pure _)

/-! ## Sets -/

theorem setMember_deaf (t : Token) : Deaf blanks (setMember t) := by
  cases t with
  | plain c => exact .pure _
  | escaped c => exact setEscape_deaf c

theorem rangeOf_deaf (low high : SetItem) : Deaf blanks (rangeOf low high) := by
  unfold rangeOf
  split
  · exact .ite (.pure _) .fail
  · exact .fail

theorem setMembers_deaf (fuel : Nat) (found : List SetItem) :
    Deaf blanks (setMembers fuel found) := by
  induction fuel generalizing found with
  | zero => exact .fail
  | succ fuel ih =>
    unfold setMembers
    refine next_deaf.bind fun t => ?_
    split
    · exact .fail
    refine .ite (.pure _) ((setMember_deaf _).bind fun item => ?_)
    refine (accept_deaf _).bind fun _ => .ite (next_deaf.bind fun u => ?_) (ih _)
    split
    · exact .fail
    · exact .pure _
    · exact (setMember_deaf _).bind fun last => (rangeOf_deaf item last).bind fun _ => ih _

theorem setNode_deaf : Deaf blanks setNode := by
  unfold setNode
  refine (accept_deaf _).bind fun negated => .get (fun _ _ _ _ => rfl) fun r => ?_
  refine (setMembers_deaf _ _).bind fun items => ?_
  split
  · exact .pure _
  · exact .pure _

/-! ## Repetition -/

theorem roundCount_deaf (cs : List Char) : Deaf blanks (roundCount cs) :=
  .ite (.throw _) (.ite (.throw _) (.pure _))

/-- What is in braces, where the reader is put back if it is no bounds. -/
theorem recalls_bounds (low high : List Char) : Recalls blanks fun before => do
    if ← accept '\x7d' then
      let least ← if low.isEmpty then Pure.pure 0 else roundCount low
      if high.isEmpty then return some (least, none)
      let most ← roundCount high
      if most < least then Parse.fail
      return some (least, some most)
    else
      set before
      return none := by
  refine .bind (fun _ => accept_deaf _) (fun _ _ _ _ => rfl) fun closed => ?_
  cases closed with
  | false => exact .set none
  | true =>
    refine .of_deaf (fun _ => ?_) fun _ _ _ _ => rfl
    rw [if_pos rfl]
    extract_lets rest
    have rest_deaf (least : Nat) : Deaf blanks (rest least) :=
      .ite (.pure _) ((roundCount_deaf high).bind fun _ => .ite .fail_bind (.pure _))
    exact .ite (.bind (.pure _) rest_deaf) ((roundCount_deaf low).bind rest_deaf)

theorem bounds?_deaf : Deaf blanks bounds? := by
  refine peek_deaf.bind fun t => .ite (.pure _) ?_
  refine .recall (.bind (fun _ => takeWhile_deaf _ _) (fun _ _ _ _ => rfl) fun low => ?_)
  refine .bind (fun _ => accept_deaf _) (fun _ _ _ _ => rfl) fun comma => ?_
  cases comma with
  | true => exact .bind (fun _ => takeWhile_deaf _ _) (fun _ _ _ _ => rfl) (recalls_bounds low)
  | false => exact .bind (fun _ => .pure _) (fun _ _ _ _ => rfl) (recalls_bounds low)

theorem repetition?_deaf (c : Char) : Deaf blanks (repetition? c) :=
  .ite (.pure _) <| .ite (.pure _) <| .ite (.pure _) <| .ite bounds?_deaf (.pure _)

theorem greed_deaf : Deaf blanks greed :=
  (accept_deaf _).bind fun _ => .ite (.pure _) <|
    (accept_deaf _).bind fun _ => .ite (.pure _) (.pure _)

/-! ## Flags in groups -/

theorem addFlag_deaf (c : Char) (flags : PatternFlags) : Deaf blanks (addFlag c flags) := by
  unfold addFlag
  refine .get (fun _ _ _ _ => rfl) fun r => ?_
  split
  · exact .fail
  · split
    · exact .ite .fail_bind (.pure _)
    · exact .pure _

theorem flagLetters_deaf (ends : List Char) (fuel : Nat) (flags : PatternFlags) :
    Deaf blanks (flagLetters ends fuel flags) := by
  induction fuel generalizing flags with
  | zero => exact .fail
  | succ fuel ih =>
    unfold flagLetters
    refine next_deaf.bind fun t => ?_
    split
    · exact .ite (.pure _) ((addFlag_deaf _ _).bind fun _ => ih _)
    · exact .fail

theorem lookNode_deaf (behind negated : Bool) (body : List Node) :
    Deaf blanks (lookNode behind negated body) := by
  refine .ite (.get (fun _ _ _ _ => rfl) fun r => ?_) (.pure _)
  split
  · exact .pure _
  · exact .bind (.modify fun _ _ _ => rfl) fun _ => .pure _

theorem verboseNow_deaf (verbose : Bool) : Deaf true (verboseNow verbose) :=
  .get (fun r flags conflict same => by simp [Reader.reflag, same rfl]) fun _ => .pure _

/-! ## Flags for the whole pattern -/

/-- A step that gives the same from other flags that agree on skipping blanks. Afterwards they agree
on that again, and nothing turns it off. -/
def InStep (blanks : Bool) (a : Parse α) : Prop :=
  ∀ ⦃r x s⦄, a.run r = .ok (x, s) → (r.flags.verbose → s.flags.verbose) ∧
    ∀ flags conflict, flags.Agree blanks r.flags → ∃ flags' conflict',
      flags'.Agree blanks s.flags ∧
        a.run (r.reflag flags conflict) = .ok (x, s.reflag flags' conflict')

theorem Deaf.inStep (h : Deaf blanks a) : InStep blanks a := fun _ _ _ ran =>
  ⟨fun verbose => h.keeps ran ▸ verbose, fun flags conflict same =>
    ⟨flags, conflict, h.keeps ran ▸ same, h ran flags conflict same⟩⟩

theorem InStep.bind (first : InStep blanks a) (next : ∀ x, InStep blanks (f x)) :
    InStep blanks (a >>= f) := by
  intro r y s ran
  obtain ⟨x, t, one, two⟩ := bind_ok.1 ran
  obtain ⟨stays, again⟩ := first one
  obtain ⟨stays', again'⟩ := next x two
  refine ⟨stays' ∘ stays, fun flags conflict same => ?_⟩
  obtain ⟨flags', conflict', same, one⟩ := again flags conflict same
  obtain ⟨flags'', conflict'', same, two⟩ := again' flags' conflict' same
  exact ⟨flags'', conflict'', same, bind_ok.2 ⟨x, _, one, two⟩⟩

/-- A step that gives the same from other flags, and leaves the flags alone where its result has a
property. -/
structure Settles (blanks : Bool) (P : α → Prop) (a : Parse α) : Prop where
  inStep : InStep blanks a
  deaf : ∀ ⦃r x s⦄, a.run r = .ok (x, s) → P x → ∀ flags conflict, flags.Agree blanks r.flags →
    a.run (r.reflag flags conflict) = .ok (x, s.reflag flags conflict)

namespace Settles

variable {P : α → Prop} {Q : β → Prop}

theorem keeps (h : Settles blanks P a) (ran : a.run r = .ok (x, s)) (holds : P x) :
    s.flags = r.flags := by
  have again := (h.deaf ran holds r.flags r.conflict fun _ => rfl).symm.trans ran
  simp only [Except.ok.injEq, Prod.mk.injEq, true_and] at again
  rw [← again]
  rfl

theorem of_deaf (h : Deaf blanks a) : Settles blanks P a := ⟨h.inStep, fun _ _ _ ran _ => h ran⟩

theorem deaf_of (h : Settles blanks P a) (holds : ∀ x, P x) : Deaf blanks a :=
  fun _ x _ ran => h.deaf ran (holds x)

theorem ite {c : Prop} [Decidable c] {b : Parse α} (yes : Settles blanks P a)
    (no : Settles blanks P b) : Settles blanks P (if c then a else b) := by
  split
  · exact yes
  · exact no

/-- In two steps the flags are left alone where the whole result tells that the first step does. -/
theorem bind (first : Settles blanks P a) (next : ∀ x, Settles blanks Q (f x))
    (past : ∀ x t y s, (f x).run t = .ok (y, s) → Q y → P x) : Settles blanks Q (a >>= f) where
  inStep := first.inStep.bind fun x => (next x).inStep
  deaf := by
    intro r y s ran holds flags conflict same
    obtain ⟨x, t, one, two⟩ := bind_ok.1 ran
    have settled := past x t y s two holds
    refine bind_ok.2 ⟨x, _, first.deaf one settled flags conflict same, ?_⟩
    exact (next x).deaf two holds flags conflict (first.keeps one settled ▸ same)

theorem after (first : Deaf blanks a) (next : ∀ x, Settles blanks Q (f x)) :
    Settles blanks Q (a >>= f) :=
  bind (of_deaf (P := fun _ => True) first) next fun _ _ _ _ _ _ => trivial

theorem get {k : Reader → Parse β} (blind : Reader.Blind blanks k)
    (next : ∀ r, Settles blanks Q (k r)) : Settles blanks Q (MonadState.get >>= k) where
  inStep := by
    intro r y s ran
    obtain ⟨stays, again⟩ := (next r).inStep ran
    refine ⟨stays, fun flags conflict same => ?_⟩
    change ∃ _ _, _ ∧ (k (r.reflag flags conflict)).run _ = _
    rw [blind r flags conflict same]
    exact again flags conflict same
  deaf := by
    intro r y s ran holds flags conflict same
    change (k (r.reflag flags conflict)).run _ = _
    rw [blind r flags conflict same]
    exact (next r).deaf ran holds flags conflict same

end Settles

/-- Flags for the whole pattern are added; a group of its own leaves them alone. -/
theorem groupFlags_settles (c : Char) :
    Settles blanks (fun scope => scope.isSome) (groupFlags c) := by
  unfold groupFlags
  refine .get (fun _ _ _ _ => rfl) fun r => ?_
  extract_lets fuel rest
  have rest_settles (p : PatternFlags × Char) :
      Settles blanks (fun scope => scope.isSome) (rest p) := by
    unfold rest
    split
    refine .ite ⟨?_, ?_⟩ (.of_deaf ?_)
    · rintro r _ _ ⟨⟩
      refine ⟨fun verbose => by simp [PatternFlags.union, verbose], fun flags conflict same => ?_⟩
      exact ⟨flags.union _, _, fun heeded => congrArg (· || _) (same heeded), rfl⟩
    · rintro r _ _ ⟨⟩ ⟨⟩
    · refine .ite .fail_bind (.ite (.pure _) (next_deaf.bind fun t => ?_))
      split
      · exact (addFlag_deaf _ _).bind fun _ => (flagLetters_deaf _ _ _).bind fun off =>
          .ite .fail_bind (.pure _)
      · exact .fail
  exact .ite (.after (.pure _) rest_settles)
    (.after (addFlag_deaf _ _) fun _ => .after (flagLetters_deaf _ _ _) rest_settles)

/-- The opening of a group leaves the flags alone, unless it may stand for flags and is skipped. -/
theorem opening_settles (first : Bool) :
    Settles blanks (fun o => first → o ≠ .skipped) (opening first) := by
  refine .after (accept_deaf _) fun _ => .ite (.of_deaf (.pure _)) (.after next_deaf fun t => ?_)
  split
  · refine .of_deaf ((accept_deaf _).bind fun _ => .ite ?_ ?_)
    · exact (groupName_deaf _).bind fun _ => .pure _
    refine (expect_deaf _).bind fun _ => .get (fun _ _ _ _ => rfl) fun r => ?_
    refine (groupName_deaf _).bind fun cs => ?_
    split
    · exact (backrefTo_deaf _).bind fun _ => .pure _
    · exact .fail
  · exact .of_deaf (.pure _)
  · exact .of_deaf (.pure _)
  · refine .of_deaf fun r x s ran flags conflict _ => ?_
    simp only [bind_ok] at ran ⊢
    obtain ⟨_, _, ⟨⟩, ran⟩ := ran
    refine ⟨_, _, rfl, ?_⟩
    split at ran
    · cases ran
    · next found =>
      cases ran
      simp only [Reader.reflag, found]
      rfl
  · exact .of_deaf (.pure _)
  · exact .of_deaf (.pure _)
  · exact .of_deaf ((accept_deaf _).bind fun _ => .ite (.pure _)
      ((expect_deaf _).bind fun _ => .pure _))
  · exact .of_deaf (conditionGroup_deaf.bind fun _ => (checkBehind_deaf _).bind fun _ => .pure _)
  · refine .get (fun _ _ _ _ => rfl) fun r => .ite (.of_deaf .fail_bind) ?_
    refine (groupFlags_settles _).bind (fun scope => .of_deaf ?_) fun scope t o s ran kept => ?_
    · split
      · exact .ite (.pure _) .fail
      · exact .pure _
    · cases scope with
      | none => cases first <;> cases ran; exact absurd rfl (kept rfl)
      | some scope => rfl
  · exact .of_deaf .fail

/-- A repetition stands in the place of a part. -/
theorem repeatLast_settles {P : β → Prop} {k : List Node → Parse β} {least : Nat}
    {most : Option Nat} {done : List Node}
    (next : ∀ node rest, Settles blanks P (k (node :: rest))) :
    Settles blanks P (repeatLast least most done >>= k) := by
  have fails : Settles blanks P (Parse.fail >>= k) := .of_deaf fun _ _ _ ran => nomatch ran
  unfold repeatLast
  split
  · exact fails
  · exact fails
  · exact fails
  · simp only [bind_assoc, pure_bind]
    exact .after (.modify fun _ _ _ => rfl) fun _ => .after greed_deaf fun _ => next _ _

/-! ## Groups and sequences -/

mutual

theorem alternatives_settles : (fuel : Nat) → (verbose top : Bool) → (done : List (List Node)) →
    Settles true (fun _ => ¬(top && done.isEmpty)) (alternatives fuel verbose top done)
  | 0, _, _, _ => .of_deaf .fail
  | fuel + 1, verbose, top, done => by
    rw [alternatives]
    refine (parts_settles fuel verbose (top && done.isEmpty) []).bind (fun way => ?_) ?_
    · have more (verbose : Bool) : Deaf true (alternatives fuel verbose top (way :: done)) :=
        (alternatives_settles fuel verbose top (way :: done)).deaf_of (by simp)
      refine .of_deaf ((accept_deaf _).bind fun _ => .ite (.ite ?_ ?_) (.pure _))
      · exact (verboseNow_deaf false).bind more
      · exact .bind (.pure _) more
    · intro way t ways s ran nested
      simpa using nested

theorem parts_settles : (fuel : Nat) → (verbose first : Bool) → (done : List Node) →
    Settles true (fun _ => ¬(first && done.isEmpty)) (parts fuel verbose first done)
  | 0, _, _, _ => .of_deaf .fail
  | fuel + 1, verbose, first, done => by
    have more (node : Node) (rest : List Node) : Settles true
        (fun _ => ¬(first && done.isEmpty)) (parts fuel verbose first (node :: rest)) :=
      .of_deaf ((parts_settles fuel verbose first (node :: rest)).deaf_of (by simp))
    have same (verbose : Bool) := parts_settles fuel verbose first done
    rw [parts]
    refine .after peek_deaf fun t => ?_
    split
    · exact .of_deaf (.pure _)
    · exact .of_deaf (.pure _)
    · exact .of_deaf (.pure _)
    · exact .after next_deaf fun _ => .after (escape_deaf _) fun node => more node done
    refine .after next_deaf fun _ => .ite (same verbose) ?_
    refine .ite (.after (.modify fun _ _ _ => rfl) fun _ => same verbose) ?_
    refine .ite (.after setNode_deaf fun node => more node done) ?_
    refine .ite (more _ _) (.ite (more _ _) (.ite (more _ _) (.ite ?_ ?_)))
    · refine (groupNode_settles fuel verbose (first && done.isEmpty)).bind (fun node? => ?_) ?_
      · split
        · exact more _ _
        · exact .ite (.after (verboseNow_deaf verbose) same) (.after (.pure _) same)
      · exact fun _ _ _ _ _ inner start => absurd start inner
    · refine .after (repetition?_deaf _) fun bounds => ?_
      split
      · exact repeatLast_settles more
      · exact more _ _

theorem groupNode_settles : (fuel : Nat) → (verbose first : Bool) →
    Settles true (fun node? => first → node?.isSome) (groupNode fuel verbose first)
  | 0, _, _ => .of_deaf .fail
  | fuel + 1, verbose, first => by
    have inner (verbose : Bool) : Deaf true (nested 1 (parts fuel verbose false [])) :=
      nested_deaf 1 ((parts_settles fuel verbose false []).deaf_of (by simp))
    have ways (verbose : Bool) : Deaf true (nested 2 (alternatives fuel verbose false [])) :=
      nested_deaf 2 ((alternatives_settles fuel verbose false []).deaf_of (by simp))
    rw [groupNode]
    -- Flags are set by what opens a group and by nothing behind it.
    refine (opening_settles first).bind (fun o => .of_deaf ?_) ?_
    · split
      · exact .pure _
      · exact .pure _
      · refine (inner verbose).bind fun yes => (accept_deaf _).bind fun _ => ?_
        extract_lets close
        have close_deaf (no : List Node) : Deaf true (close no) :=
          (expect_deaf _).bind fun _ => .pure _
        exact .ite ((inner verbose).bind close_deaf) (.bind (.pure _) close_deaf)
      · refine .get (fun _ _ _ _ => rfl) fun r => ?_
        extract_lets outer rest
        have rest_deaf : Deaf true (rest ()) := by
          refine (ways verbose).bind fun body => ?_
          extract_lets close
          have close_deaf : Deaf true (close ()) :=
            (expect_deaf _).bind fun _ => (lookNode_deaf _ _ body).bind fun _ => .pure _
          exact .ite (.bind (.modify fun _ _ _ => rfl) fun _ => close_deaf) close_deaf
        exact .ite (.bind (.modify fun _ _ _ => rfl) fun _ => rest_deaf) rest_deaf
      · extract_lets inside rest
        have rest_deaf (number : Option Nat) : Deaf true (rest number) := by
          refine (ways _).bind fun body => (expect_deaf ')').bind fun _ => .ite (.pure _) ?_
          split
          · exact (closeGroup_deaf _ body).bind fun _ => .pure _
          · exact .pure _
        exact .ite (.bind ((openGroup_deaf _).bind fun _ => .pure _) rest_deaf)
          (.bind (.pure _) rest_deaf)
    · rintro o t node? s ran found isFirst rfl
      cases ran
      cases found isFirst

end

end Parse

end Pattern

end RecordCheck
