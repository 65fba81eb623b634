import RecordCheck.Proofs.ParserFlags

/-!
# What a pattern is read from

A pattern is compared with another by its text and by the flags for the whole of it. These settle
how it is read. Flags that are given from outside and flags at the start of the text may come to the
same in the end: where blanks are skipped only once the text says so, nothing has been read before
that the skipping would have changed.

## Main definitions

* `Pattern.Parse.CatchesUp`: to skip blanks from the start makes no difference.

## Main statements

* `Pattern.parse_determined`: a text is read in one way for one outcome of the flags.
* `Pattern.eq_of_same`: patterns that are the same look for the same.
-/
set_option autoImplicit false

namespace RecordCheck.Pattern

namespace Parse

variable {α β : Type} {a : Parse α} {f : α → Parse β} {r s t : Reader} {x : α}

/-- Where the first step turns on the skipping of blanks, the second gives the same with blanks
skipped from the start. -/
def CatchesUp (a b : Parse α) : Prop :=
  ∀ ⦃r x s⦄, a.run r = .ok (x, s) → r.flags.verbose = false → s.flags.verbose →
    ∀ flags conflict, flags.verbose → ∃ flags' conflict', flags'.verbose ∧
      b.run (r.reflag flags conflict) = .ok (x, s.reflag flags' conflict')

namespace CatchesUp

variable {b : Parse α} {g : α → Parse β}

theorem of_deaf (h : Deaf true a) : CatchesUp a b := by
  intro r x s ran off on
  rw [h.keeps ran, off] at on
  cases on

theorem after (first : Deaf false a) (next : ∀ x, CatchesUp (f x) (g x)) :
    CatchesUp (a >>= f) (a >>= g) := by
  intro r y s ran off on flags conflict given
  obtain ⟨x, t, one, two⟩ := bind_ok.1 ran
  obtain ⟨flags', conflict', given', two⟩ :=
    next x two (first.keeps one ▸ off) on flags conflict given
  exact ⟨flags', conflict', given', bind_ok.2 ⟨x, _, first one flags conflict nofun, two⟩⟩

/-- What follows leaves the flags alone. -/
theorem before (first : CatchesUp a b) (next : ∀ x, Deaf true (f x)) :
    CatchesUp (a >>= f) (b >>= f) := by
  intro r y s ran off on flags conflict given
  obtain ⟨x, t, one, two⟩ := bind_ok.1 ran
  have on' : t.flags.verbose := (next x).keeps two ▸ on
  obtain ⟨flags', conflict', given', one⟩ := first one off on' flags conflict given
  have rest := next x two flags' conflict' fun _ => given'.trans on'.symm
  exact ⟨flags', conflict', given', bind_ok.2 ⟨x, _, one, rest⟩⟩

end CatchesUp

/-- A step whose result is never empty. -/
def Fills (a : Parse (Option α)) : Prop := ∀ r s, a.run r ≠ .ok (none, s)

theorem Fills.some (x : α) : Fills (Pure.pure (some x)) := fun _ _ ran => nomatch ran

theorem Fills.bind {f : β → Parse (Option α)} {b : Parse β} (next : ∀ x, Fills (f x)) :
    Fills (b >>= f) := by
  intro r s ran
  obtain ⟨x, t, -, two⟩ := bind_ok.1 ran
  exact next x t s two

theorem Fills.ite {c : Prop} [Decidable c] {b b' : Parse (Option α)} (yes : Fills b)
    (no : Fills b') : Fills (if c then b else b') := by
  split
  · exact yes
  · exact no

/-- A group leaves nothing when its opening is skipped. -/
theorem groupNode_none {fuel : Nat} {verbose first : Bool} :
    (groupNode (fuel + 1) verbose first).run r = .ok (none, s) ↔
      (opening first).run r = .ok (.skipped, s) := by
  rw [groupNode, bind_ok]
  refine ⟨fun ⟨o, t, one, two⟩ => ?_, fun skipped => ⟨_, _, skipped, rfl⟩⟩
  cases o with
  | skipped =>
    cases two
    exact one
  | whole node => cases two
  | condition number =>
    have close (no yes : List Node) : Fills (do
        expect ')'
        return some (Node.cond number yes no)) := .bind fun _ => .some _
    refine absurd two (Fills.bind (fun yes => .bind fun _ => ?_) t s)
    exact .ite (.bind fun no => close no yes) (.bind fun no => close no yes)
  | look behind negated =>
    refine absurd two (Fills.bind (fun outer => ?_) t s)
    extract_lets behind rest
    have rest_fills : Fills (rest ()) :=
      .bind fun body => .ite (.bind fun _ => .bind fun _ => .bind fun _ => .some _)
        (.bind fun _ => .bind fun _ => .some _)
    exact .ite (.bind fun _ => rest_fills) rest_fills
  | body name captures isAtomic on off =>
    suffices fills : Fills _ from absurd two (fills t s)
    dsimp -zeta only
    extract_lets inside rest
    have rest_fills (number : Option Nat) : Fills (rest number) := by
      refine .bind fun body => .bind fun _ => .ite (.some _) ?_
      split
      · exact .bind fun _ => .some _
      · exact .some _
    exact .ite (.bind rest_fills) (.bind rest_fills)

/-- A group that leaves nothing does so where blanks are skipped too. -/
theorem groupNode_catchesUp {fuel : Nat} (ran : (groupNode fuel false true).run r = .ok (none, s))
    (flags : PatternFlags) (conflict : Bool) (given : flags.verbose) : ∃ flags' conflict',
      flags'.verbose ∧
        (groupNode fuel true true).run (r.reflag flags conflict) =
          .ok (none, s.reflag flags' conflict') := by
  cases fuel with
  | zero => cases ran
  | succ fuel =>
    have step : InStep false (opening true) := (opening_settles true).inStep
    obtain ⟨flags', conflict', -, skipped⟩ := (step (groupNode_none.1 ran)).2 flags conflict nofun
    exact ⟨flags', conflict', (step skipped).1 given, groupNode_none.2 skipped⟩

/-- After a group that leaves nothing, blanks are skipped if it said so. -/
theorem parts_skipped {fuel : Nat} {nodes : List Node}
    (ih : CatchesUp (parts fuel false true []) (parts fuel true true []))
    (ran : (verboseNow false >>= fun verbose => parts fuel verbose true []).run r = .ok (nodes, s))
    (on : s.flags.verbose) (flags : PatternFlags) (conflict : Bool) (given : flags.verbose) :
    ∃ flags' conflict', flags'.verbose ∧
      (parts fuel true true []).run (r.reflag flags conflict) =
        .ok (nodes, s.reflag flags' conflict') := by
  obtain ⟨verbose, _, ⟨⟩, ran⟩ := bind_ok.1 ran
  cases now : r.flags.verbose with
  | false =>
    rw [now] at ran
    exact ih ran now on flags conflict given
  | true =>
    rw [now] at ran
    obtain ⟨-, again⟩ := (parts_settles fuel true true []).inStep ran
    obtain ⟨flags', conflict', same, again⟩ := again flags conflict fun _ => given.trans now.symm
    exact ⟨flags', conflict', (same rfl).trans on, again⟩

theorem parts_catchesUp (fuel : Nat) :
    CatchesUp (parts fuel false true []) (parts fuel true true []) := by
  induction fuel with
  | zero => exact .of_deaf .fail
  | succ fuel ih =>
    have more (node : Node) : Deaf true (parts fuel false true [node]) :=
      (parts_settles fuel false true [node]).deaf_of (by simp)
    unfold parts
    refine .after peek_deaf fun t => ?_
    split
    · exact .of_deaf (.pure _)
    · exact .of_deaf (.pure _)
    · exact .of_deaf (.pure _)
    · exact .of_deaf (next_deaf.bind fun _ => (escape_deaf _).bind more)
    · next c _ _ =>
      refine .after next_deaf fun _ => ?_
      by_cases group : c = '('
      · subst group
        intro r nodes s ran off on flags conflict given
        obtain ⟨node?, t, one, two⟩ := bind_ok.1 ran
        cases node? with
        | some node =>
          -- What follows a part changes no flags.
          have kept := ((more node).keeps two).trans
            ((groupNode_settles fuel false true).keeps one fun _ => rfl)
          rw [kept, off] at on
          cases on
        | none =>
          -- A group that only sets flags leaves no part, and what follows it comes first again.
          obtain ⟨flags', conflict', given', one'⟩ := groupNode_catchesUp one flags conflict given
          obtain ⟨flags'', conflict'', given'', rest⟩ :=
            parts_skipped ih two on flags' conflict' given'
          exact ⟨flags'', conflict'', given'', bind_ok.2 ⟨none, _, one', rest⟩⟩
      refine .of_deaf ?_
      simp only [Bool.false_and, Bool.false_eq_true, if_false]
      refine .ite (setNode_deaf.bind more) (.ite (more _) (.ite (more _) (.ite (more _) ?_)))
      rw [if_neg (by simpa using group)]
      refine (repetition?_deaf _).bind fun bounds => ?_
      split
      · intro _ _ _ ran
        cases ran
      · exact more _

theorem alternatives_catchesUp (fuel : Nat) :
    CatchesUp (alternatives fuel false true []) (alternatives fuel true true []) := by
  cases fuel with
  | zero => exact .of_deaf .fail
  | succ fuel =>
    unfold alternatives
    refine (parts_catchesUp fuel).before fun way => (accept_deaf _).bind fun _ => .ite ?_ (.pure _)
    refine (verboseNow_deaf false).bind fun verbose => ?_
    exact (alternatives_settles fuel verbose true [way]).deaf_of (by simp)

section Determined

variable {fuel : Nat} {others : PatternFlags} {conflict : Bool} {nodes nodes' : List Node}

theorem alternatives_determined_of_off (off : r.flags.verbose = false) (on : others.verbose)
    (one : (alternatives fuel false true []).run r = .ok (nodes, s))
    (two : (alternatives fuel true true []).run (r.reflag others conflict) = .ok (nodes', t))
    (same : s.flags = t.flags) : nodes = nodes' ∧ s.closed = t.closed := by
  have ended : t.flags.verbose := ((alternatives_settles fuel true true []).inStep two).1 on
  obtain ⟨flags, conflict', -, again⟩ :=
    alternatives_catchesUp fuel one off (same ▸ ended) others conflict on
  cases again.symm.trans two
  exact ⟨rfl, rfl⟩

/-- The parts and the widths that are read do not depend on the flags that were given, other than
through the flags in the end. -/
theorem alternatives_determined
    (one : (alternatives fuel r.flags.verbose true []).run r = .ok (nodes, s))
    (two : (alternatives fuel others.verbose true []).run (r.reflag others conflict) =
      .ok (nodes', t))
    (same : s.flags = t.flags) : nodes = nodes' ∧ s.closed = t.closed := by
  cases early : r.flags.verbose <;> cases late : others.verbose <;> rw [early] at one <;>
    rw [late] at two
  case false.true => exact alternatives_determined_of_off early late one two same
  case true.false =>
    have back : (r.reflag others conflict).reflag r.flags r.conflict = r := rfl
    obtain ⟨nodes, closed⟩ := alternatives_determined_of_off late early two (back ▸ one) same.symm
    exact ⟨nodes.symm, closed.symm⟩
  all_goals
    obtain ⟨-, again⟩ := (alternatives_settles fuel _ true []).inStep one
    obtain ⟨_, _, -, again⟩ := again others conflict fun _ => late.trans early.symm
    cases again.symm.trans two
    exact ⟨rfl, rfl⟩

end Determined

end Parse

open Parse

/-- What the reading of a text runs. -/
theorem parse_ok {isText : Bool} {flags : PatternFlags} {text : List Char} {reading : Reading}
    (read : parse isText flags text = .ok reading) : ∃ ts r, tokens? text = some ts ∧
      (alternatives (3 * ts.length + 3) flags.verbose true []).run { tokens := ts, isText, flags } =
        .ok (reading.parts, r) ∧ reading.flags = r.flags ∧ reading.widths = r.closed := by
  unfold parse at read
  split at read
  · cases read
  · next ts cut =>
    refine ⟨ts, ?_⟩
    dsimp only at read
    cases ran : (alternatives (3 * ts.length + 3) flags.verbose true []).run
      { tokens := ts, isText, flags } with
    | error e =>
      rw [ran] at read
      cases read
    | ok p =>
      rw [ran] at read
      simp only [bind, Except.bind] at read
      split at read
      · cases read
      split at read
      · cases read
      · cases read
        exact ⟨p.2, cut, rfl, rfl, rfl⟩

/-- A text is read in one way for one outcome of the flags, whatever flags were given. -/
theorem parse_determined {isText : Bool} {text : List Char} {given others : PatternFlags}
    {reading reading' : Reading} (one : parse isText given text = .ok reading)
    (two : parse isText others text = .ok reading') (same : reading.flags = reading'.flags) :
    reading = reading' := by
  obtain ⟨ts, r, cut, ran, flags, widths⟩ := parse_ok one
  obtain ⟨ts', r', cut', ran', flags', widths'⟩ := parse_ok two
  obtain rfl : ts = ts' := Option.some.inj (cut.symm.trans cut')
  let start : Reader := { tokens := ts, isText, flags := given }
  change (alternatives _ _ true []).run (start.reflag others false) = _ at ran'
  obtain ⟨parts, closed⟩ := alternatives_determined ran ran' (by rw [← flags, same, flags'])
  cases reading
  cases reading'
  simp_all

/-- What a pattern is made of was read from its text. -/
theorem ofSource_ok {isText : Bool} {source : List Char} {given : PatternFlags} {p : Pattern}
    (made : ofSource isText source given = .ok p) : ∃ reading,
      parse isText given source = .ok reading ∧ p = ⟨isText, source, reading.flags,
        .ofParts reading.flags reading.widths reading.parts⟩ := by
  unfold ofSource at made
  split at made
  · next reading read =>
    cases made
    exact ⟨reading, read, rfl⟩
  · cases made

/-- Patterns that were written the same way and have the same flags are one pattern. -/
theorem eq_of_same {p q : Pattern} {given others : PatternFlags}
    (one : ofSource p.isText p.source given = .ok p)
    (two : ofSource q.isText q.source others = .ok q) (same : p.same q) : p = q := by
  obtain ⟨reading, read, made⟩ := ofSource_ok one
  obtain ⟨reading', read', made'⟩ := ofSource_ok two
  simp only [Pattern.same, Bool.and_eq_true, beq_iff_eq] at same
  obtain ⟨⟨isText, source⟩, flags⟩ := same
  rw [made, made'] at flags
  rw [← isText, ← source] at read'
  rw [made, made', isText, source, parse_determined read read' flags]

end RecordCheck.Pattern
