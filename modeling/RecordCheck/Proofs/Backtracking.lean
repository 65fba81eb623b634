import Mathlib
import RecordCheck.Proofs.Spans

/-!
# The search for plain patterns

Backtracking finds a match of a plain pattern just if there is one. What is remembered on the way
never matters, so that an attempt from a place stands for a condition on the place.

## Main definitions

* `Decides`: an attempt that succeeds just where a condition holds.
* `Span.Tries`: the rounds that a repetition tries with a bound for the work.

## Main statements

* `decides_codeOf`: the code of a plain sequence decides what the sequence leads to.
* `search_isSome_iff`: a search finds something just if the sequence matches somewhere.
-/
set_option autoImplicit false

namespace RecordCheck.Pattern

/-! ## Places -/

namespace Place

variable {before after : List Char} {c : Char} {test : Nat → Bool}

@[simp]
theorem between_index : (between before after).index = before.length := rfl

@[simp]
theorem between_before : (between before after).before = before := rfl

@[simp]
theorem between_after : (between before after).after = after := rfl

@[simp]
theorem room_between : (between before after).room = after.length := by simp [room, between]

theorem step_between :
    (⟨before.length + (c :: after).length, before.length + 1, c :: before, after⟩ : Place) =
      between (c :: before) after := by
  simp only [between, List.length_cons, Nat.add_assoc, Nat.add_comm 1]

@[simp]
theorem step?_nil : (between before []).step? test = none := rfl

@[simp]
theorem step?_cons : (between before (c :: after)).step? test =
    if test c.toNat then some (between (c :: before) after) else none := by
  rw [← step_between]
  rfl

theorem ahead_cons {n : Nat} : (between before (c :: after)).ahead (n + 1) =
    (between (c :: before) after).ahead n := by
  rw [← step_between]
  rfl

theorem ahead_between {taken : List Char} : (between before (taken ++ after)).ahead taken.length =
    between (taken.reverse ++ before) after := by
  induction taken generalizing before with
  | nil => rfl
  | cons c taken ih => rw [List.length_cons, List.cons_append, ahead_cons, ih]; simp

theorem spread_nil {most : Option Nat} :
    (between before []).spread test most = [between before []] := rfl

theorem spread_cons {most : Option Nat} : (between before (c :: after)).spread test most =
    between before (c :: after) ::
      if most != some 0 && test c.toNat then
        (between (c :: before) after).spread test (most.map (· - 1))
      else [] := by
  rw [← step_between]
  rfl

theorem length_spread_pos (test : Nat → Bool) (before after : List Char) (most : Option Nat) :
    0 < ((between before after).spread test most).length := by
  cases after with
  | nil => exact Nat.one_pos
  | cons c after => rw [spread_cons]; exact Nat.succ_pos _

theorem exists_split_cons {P : List Char → List Char → Prop} :
    (∃ taken rest, c :: after = taken ++ rest ∧ P taken rest) ↔
      P [] (c :: after) ∨ ∃ taken rest, after = taken ++ rest ∧ P (c :: taken) rest := by
  constructor
  · rintro ⟨taken, rest, split, holds⟩
    obtain ⟨rfl, rfl⟩ | ⟨taken, rfl, rfl⟩ := List.cons_eq_append_iff.1 split
    · exact .inl holds
    · exact .inr ⟨taken, rest, rfl, holds⟩
  · rintro (holds | ⟨taken, rest, rfl, holds⟩)
    · exact ⟨[], _, rfl, holds⟩
    · exact ⟨c :: taken, rest, rfl, holds⟩

/-- The places of a run, from a number of characters on. -/
theorem mem_drop_spread {most : Option Nat} {n : Nat} {q : Place} :
    q ∈ ((between before after).spread test most).drop n ↔
      ∃ taken rest, after = taken ++ rest ∧ n ≤ taken.length ∧
        (∀ limit ∈ most, taken.length ≤ limit) ∧ (∀ c ∈ taken, test c.toNat = true) ∧
        q = between (taken.reverse ++ before) rest := by
  induction after generalizing before most n with
  | nil => cases n <;> simp [spread_nil]
  | cons c after ih =>
    have further (n : Nat) : q ∈ (if most != some 0 && test c.toNat then
          (between (c :: before) after).spread test (most.map (· - 1)) else []).drop n ↔
        ∃ taken rest, after = taken ++ rest ∧ n ≤ taken.length ∧
          (∀ limit ∈ most, taken.length + 1 ≤ limit) ∧ (∀ d ∈ c :: taken, test d.toNat = true) ∧
          q = between (taken.reverse ++ c :: before) rest := by
      cases passed : test c.toNat with
      | false => simp [passed]
      | true =>
        cases most with
        | none => simp [ih, passed]
        | some limit =>
          cases limit with
          | zero => simp
          | succ limit => simp [ih, passed]
    rw [spread_cons, exists_split_cons]
    cases n with
    | zero =>
      rw [List.drop_zero, List.mem_cons, ← List.drop_zero (l := ite _ _ _), further]
      simp
    | succ n =>
      rw [List.drop_succ_cons, further]
      simp

end Place

/-! ## Attempts -/

/-- An attempt that succeeds just where a condition holds, whatever is remembered. -/
def Decides (follow : Follow) (goal : Goal) : Prop :=
  ∀ before after m, (follow (.between before after) m).1 = true ↔ goal before after

theorem stop_decides : Decides stop fun _ _ => True := fun _ _ _ => by simp [stop]

theorem orElse_iff {outcome : Outcome} {next : Memory → Outcome} {P : Prop}
    (other : ∀ m, (next m).1 = true ↔ P) :
    (orElse outcome next).1 = true ↔ outcome.1 = true ∨ P := by
  obtain ⟨succeeded, m⟩ := outcome
  cases succeeded <;> simp [orElse, other]

section Attempts

variable {follow : Follow} {goal : Goal} {repeated : Bool} {started m : Memory}
  {before after : List Char} {test : Single} {least : Nat} {most : Option Nat}

/-! ### Repetition of a test -/

theorem tryAll_iff (h : Decides follow goal) {places : List Place}
    (formed : ∀ p ∈ places, p = .between p.before p.after) :
    (tryAll follow repeated started places m).1 = true ↔
      ∃ p ∈ places, goal p.before p.after := by
  induction places generalizing m with
  | nil => simp [tryAll]
  | cons p places ih =>
    rw [tryAll, orElse_iff fun m => ih fun q member => formed q (.tail _ member),
      List.exists_mem_cons_iff]
    rw [formed p (.head _), h]
    rfl

theorem tryOnward_iff (h : Decides follow goal) :
    (tryOnward test follow repeated started (before.length + after.length) before.length before
      after most m).1 = true ↔
      ((Span.one test.accepts).times 0 most).LeadsTo goal before after := by
  induction after generalizing before most m with
  | nil =>
    rw [tryOnward, orElse_iff (P := False) (by simp), Span.leadsTo_times_zero, Span.leadsTo_one]
    exact or_congr (h before [] _) (by simp)
  | cons c after ih =>
    have size : before.length + (c :: after).length = (c :: before).length + after.length := by
      simp only [List.length_cons]
      omega
    rw [tryOnward, Span.leadsTo_times_zero, Span.leadsTo_one]
    dsimp only
    rw [orElse_iff (P := test.accepts c.toNat = true ∧ most ≠ some 0 ∧
      ((Span.one test.accepts).times 0 (most.map (· - 1))).LeadsTo goal (c :: before) after)]
    · refine or_congr (h before (c :: after) _) ?_
      simp only [List.cons.injEq]
      constructor
      · rintro ⟨passed, more, others⟩
        exact ⟨more, c, after, ⟨rfl, rfl⟩, passed, others⟩
      · rintro ⟨more, _, _, ⟨rfl, rfl⟩, passed, others⟩
        exact ⟨passed, more, others⟩
    · intro m
      split
      · next passed =>
        split
        · next none => simp_all
        · next more =>
          rw [size]
          exact ih.trans (by simp_all)
      · next failed => simp [failed]

/-- Where enough characters pass a test, a run has the places after each of them. -/
theorem lt_length_spread
    (leads : ((Span.one test.accepts).times least most).LeadsTo goal before after)
    {bound : Option Nat} (fit : ∀ limit ∈ bound, least ≤ limit) :
    least < ((Place.between before after).spread test.accepts bound).length := by
  obtain ⟨taken, rest, rfl, enough, -, passed, -⟩ := Span.leadsTo_times_one.1 leads
  have length : (taken.take least).length = least := List.length_take_of_le enough
  have member : Place.between ((taken.take least).reverse ++ before) (taken.drop least ++ rest) ∈
      ((Place.between before (taken ++ rest)).spread test.accepts bound).drop least :=
    Place.mem_drop_spread.2 ⟨taken.take least, taken.drop least ++ rest,
      by rw [← List.append_assoc, List.take_append_drop], length.ge,
      fun limit given => length.le.trans (fit limit given),
      fun c member => passed c (List.mem_of_mem_take member), rfl⟩
  exact Nat.lt_of_sub_pos (List.length_drop ▸ List.length_pos_of_mem member)

theorem tryAll_spread_iff (h : Decides follow goal) {wanted : Option Nat}
    (begins : ∀ before after, goal before after → fits wanted (.between before after) = true) :
    (tryAll follow repeated started ((((Place.between before after).spread test.accepts most).drop
      least).reverse.filter (fits wanted)) m).1 = true ↔
      ((Span.one test.accepts).times least most).LeadsTo goal before after := by
  rw [tryAll_iff h]
  · rw [Span.leadsTo_times_one]
    simp only [List.mem_filter, List.mem_reverse, Place.mem_drop_spread]
    constructor
    · rintro ⟨_, ⟨⟨taken, rest, rfl, enough, few, passed, rfl⟩, -⟩, reached⟩
      exact ⟨taken, rest, rfl, enough, few, passed, reached⟩
    · rintro ⟨taken, rest, rfl, enough, few, passed, reached⟩
      exact ⟨_, ⟨⟨taken, rest, rfl, enough, few, passed, rfl⟩, begins _ _ reached⟩, reached⟩
  · simp only [List.mem_filter, List.mem_reverse, Place.mem_drop_spread]
    rintro _ ⟨⟨taken, rest, -, -, -, -, rfl⟩, -⟩
    rfl

theorem tryOnward_ahead_iff (h : Decides follow goal) (fit : ∀ limit ∈ most, least ≤ limit)
    (enough : least < ((Place.between before after).spread test.accepts (some least)).length) :
    let q := (Place.between before after).ahead least
    (tryOnward test follow repeated started q.size q.index q.before q.after (most.map (· - least))
      m).1 = true ↔ ((Span.one test.accepts).times least most).LeadsTo goal before after := by
  obtain ⟨q, member⟩ := List.exists_mem_of_length_pos
    (List.length_drop ▸ Nat.sub_pos_of_lt enough : 0 < (List.drop least _).length)
  obtain ⟨taken, rest, rfl, least_le, le_least, passed, -⟩ := Place.mem_drop_spread.1 member
  obtain rfl : taken.length = least := Nat.le_antisymm (le_least _ rfl) least_le
  rw [Place.ahead_between]
  refine (tryOnward_iff h).trans ?_
  rw [Span.leadsTo_times_least fit]
  constructor
  · exact fun leads => ⟨taken, rest, rfl, Span.rounds_one.2 ⟨rfl, passed⟩, leads⟩
  · rintro ⟨others, _, same, many, leads⟩
    obtain ⟨rfl, rfl⟩ := List.append_inj same (Span.rounds_one.1 many).1.symm
    exact leads

/-- A repetition of a test decides, if what follows it begins with the character that is wanted. -/
theorem execRun_iff (h : Decides follow goal) {wanted : Option Nat}
    (begins : ∀ before after, goal before after → fits wanted (.between before after) = true)
    {greed : Greed} (plain : greed ≠ .possessive) (fit : ∀ limit ∈ most, least ≤ limit) :
    (execRun greed least most test wanted repeated follow (.between before after) m).1 = true ↔
      ((Span.one test.accepts).times least most).LeadsTo goal before after := by
  unfold execRun
  split
  · next noRoom =>
    refine iff_of_false (by simp) fun leads => ?_
    obtain ⟨taken, rest, rfl, enough, -⟩ := Span.leadsTo_times_one.1 leads
    simp only [Place.room_between, List.length_append] at noRoom
    omega
  · cases greed with
    | possessive => exact absurd rfl plain
    | greedy =>
      simp only [show (Greed.greedy == .reluctant) = false from rfl, Bool.false_eq_true, if_false]
      split
      · next few =>
        refine iff_of_false (by simp) fun leads => ?_
        have := lt_length_spread leads fit
        omega
      · exact tryAll_spread_iff h begins
    | reluctant =>
      simp only [show (Greed.reluctant == .reluctant) = true from rfl, if_true]
      split
      · next few =>
        refine iff_of_false (by simp) fun leads => ?_
        have : ∀ limit ∈ some least, least ≤ limit := by simp
        have := lt_length_spread leads this
        omega
      · next enough =>
        have := Place.length_spread_pos test.accepts before after (some least)
        exact tryOnward_ahead_iff h fit (by omega)

/-! ### Repetition of a body -/

end Attempts

/-- What a repetition tries with a bound for the work: it leaves, or makes another round unless the
one before took nothing. `last` is the place where that round began. -/
def Span.Tries (R : Span) (goal : Goal) : Nat → Option Nat → Option Nat → Goal
  | 0, _, _ => goal
  | fuel + 1, most, last => fun before after =>
    goal before after ∨ (most ≠ some 0 ∧ last ≠ some before.length ∧
      R.LeadsTo (R.Tries goal fuel (most.map (· - 1)) (some before.length)) before after)

/-- Rounds that take nothing are not needed, and without them there are no more rounds than
characters. -/
theorem Span.tries_iff {R : Span} {goal : Goal} {fuel : Nat} {most last : Option Nat}
    {before after : List Char} (enough : after.length < fuel ∨ last = some before.length) :
    R.Tries goal fuel most last before after ↔ goal before after ∨
      last ≠ some before.length ∧ (R.times 0 most).LeadsTo goal before after := by
  induction fuel generalizing most last before after with
  | zero =>
    obtain rfl := enough.resolve_left (Nat.not_lt_zero _)
    simp [Tries]
  | succ fuel ih =>
    rw [Tries]
    refine or_congr_right' fun missed => ?_
    by_cases again : last = some before.length
    · simp [again]
    simp only [ne_eq, again, not_false_eq_true, true_and]
    replace enough := enough.resolve_right again
    constructor
    · rintro ⟨more, taken, rest, rfl, one, tried⟩
      refine leadsTo_times_zero.2 (.inr ⟨more, taken, rest, rfl, one, ?_⟩)
      -- a round that takes nothing is the last one, and others leave less to take
      have shorter : rest.length < fuel ∨
          some before.length = some (taken.reverse ++ before).length := by
        cases taken with
        | nil => exact .inr rfl
        | cons c taken =>
          simp only [List.length_append, List.length_cons] at enough
          exact .inl (by omega)
      exact ((ih shorter).1 tried).elim (fun reached => leadsTo_times_zero.2 (.inl reached)) (·.2)
    · intro leads
      -- rounds that take nothing are left out, so that the first one here takes something
      obtain ⟨more, taken, rest, some_, rfl, one, others⟩ :=
        (leadsTo_times_progress leads).resolve_left missed
      have positive := List.length_pos_of_ne_nil some_
      rw [List.length_append] at enough
      refine ⟨more, taken, rest, rfl, one, (ih (.inl (by omega))).2 (.inr ⟨?_, others⟩)⟩
      rw [ne_eq, Option.some.injEq, List.length_append, List.length_reverse]
      omega

section Rounds

variable {round : Follow → Follow} {R : Span} {follow : Follow} {goal : Goal}

/-- A round that decides, whatever follows it. -/
def RoundDecides (round : Follow → Follow) (R : Span) : Prop :=
  ∀ ⦃follow goal⦄, Decides follow goal → Decides (round follow) (R.LeadsTo goal)

theorem requiredRounds_decides (each : RoundDecides round R) (h : Decides follow goal) (n : Nat) :
    Decides (requiredRounds round n follow) ((R.rounds n).LeadsTo goal) := by
  induction n with
  | zero => exact fun before after m => (h before after m).trans Span.leadsTo_nothing.symm
  | succ n ih =>
    intro before after m
    rw [requiredRounds, orElse_iff (P := False) (by simp), or_false, each ih, Span.rounds,
      Span.leadsTo_andThen]

theorem greedyRounds_decides (each : RoundDecides round R) (h : Decides follow goal) (fuel : Nat)
    (most last : Option Nat) :
    Decides (greedyRounds round follow fuel most last) (R.Tries goal fuel most last) := by
  have leave (before after : List Char) (m : Memory) :
      (orElse (follow (.between before after) (m.reach before.length)) fun m =>
        (false, m.reach before.length)).1 = true ↔ goal before after := by
    rw [orElse_iff (P := False) (by simp), or_false, h]
  induction fuel generalizing most last with
  | zero => exact fun before after m => leave before after m
  | succ fuel ih =>
    intro before after m
    rw [greedyRounds, Span.Tries]
    dsimp only
    split
    · next ends =>
      refine (leave before after m).trans (or_iff_left ?_).symm
      rintro ⟨more, progress, -⟩
      simp_all
    · next goesOn =>
      refine (orElse_iff fun failed => leave before after _).trans ?_
      rw [each (ih _ _), or_comm]
      simp_all

theorem reluctantRounds_decides (each : RoundDecides round R) (h : Decides follow goal)
    (repeated : Bool) (fuel : Nat) (most last : Option Nat) :
    Decides (reluctantRounds round follow repeated fuel most last)
      (R.Tries goal fuel most last) := by
  induction fuel generalizing most last with
  | zero =>
    intro before after m
    rw [reluctantRounds, orElse_iff (P := False) (by simp), or_false, h, Span.Tries]
  | succ fuel ih =>
    intro before after m
    rw [reluctantRounds, Span.Tries]
    dsimp only
    rw [orElse_iff (P := most ≠ some 0 ∧ last ≠ some before.length ∧
      R.LeadsTo (R.Tries goal fuel (most.map (· - 1)) (some before.length)) before after), h]
    intro m
    split
    · next ends =>
      refine iff_of_false (by simp) ?_
      rintro ⟨more, progress, -⟩
      simp_all
    · next goesOn =>
      rw [orElse_iff (P := False) (by simp), or_false, each (ih _ _)]
      simp_all

/-- Rounds that must be made and then rounds that may be made, tried as often as a bound for the
work allows. -/
theorem rounds_decide (each : RoundDecides round R) {least : Nat} {most : Option Nat}
    (fit : ∀ limit ∈ most, least ≤ limit) {tried : Place → Follow}
    (tries : ∀ p, Decides (tried p) (R.Tries goal (roundBound p) (most.map (· - least)) none)) :
    Decides (requiredRounds round least fun q => tried q q)
      ((R.times least most).LeadsTo goal) := by
  have bounded (before after : List Char) : after.length < roundBound (.between before after) := by
    simp only [roundBound, Place.between]
    nlinarith
  have decided :
      Decides (fun q => tried q q) ((R.times 0 (most.map (· - least))).LeadsTo goal) := by
    intro before after m
    rw [tries, Span.tries_iff (.inl (bounded before after))]
    simp only [ne_eq, reduceCtorEq, not_false_eq_true, true_and]
    exact or_iff_right_of_imp fun reached => Span.leadsTo_times_zero.2 (.inl reached)
  intro before after m
  rw [requiredRounds_decides each decided, Span.leadsTo_times_least fit]

end Rounds

/-! ## Code -/

section Code

variable {code next : Code} {repeated : Bool} {follow : Follow} {goal : Goal}

theorem Code.begins_of_decides (h : Decides (code.exec repeated follow) goal)
    (before after : List Char) (reached : goal before after) :
    fits code.wanted? (.between before after) = true := by
  unfold wanted?
  split
  · next test next =>
    have succeeded := (h before after {}).2 reached
    cases test with
    | literal negated folding wanted =>
      cases negated <;> cases folding <;> try rfl
      cases after with
      | nil => simp [exec_single] at succeeded
      | cons c rest =>
        rw [exec_single, Place.step?_cons] at succeeded
        split at succeeded
        · next passed => simp_all [Single.exactly?, fits, Single.accepts, Folding.apply]
        · simp at succeeded
    | any | set => rfl
  · rfl

/-- A way that is left out would not have succeeded. -/
theorem Code.not_misfits (h : Decides (code.exec repeated follow) goal) {before after : List Char}
    (reached : goal before after) : code.misfits (.between before after) = false := by
  have succeeded := (h before after {}).2 reached
  unfold misfits
  split
  · next test next =>
    have stepped : ((Place.between before after).step? test.accepts).isSome = true := by
      rw [exec_single] at succeeded
      split at succeeded
      · next moved => simp [moved]
      · simp at succeeded
    split <;> simp_all
  · rfl

theorem decides_single {test : Single} (h : Decides (next.exec repeated follow) goal) :
    Decides ((Code.single test next).exec repeated follow)
      ((Span.one test.accepts).LeadsTo goal) := by
  intro before after m
  rw [Code.exec_single, Span.leadsTo_one]
  cases after with
  | nil => simp
  | cons c rest =>
    rw [Place.step?_cons]
    cases passed : test.accepts c.toNat with
    | false => simp [passed]
    | true => simpa [passed] using h (c :: before) rest m

theorem decides_mark {slot : Nat} (h : Decides (next.exec repeated follow) goal) :
    Decides ((Code.mark slot next).exec repeated follow) goal := fun before after m => by
  rw [Code.exec_mark, h]

theorem decides_way {others : Code} {R S : Span} (one : Decides (code.exec repeated follow)
      (R.LeadsTo goal)) (two : Decides (others.exec repeated follow) (S.LeadsTo goal)) :
    Decides ((Code.way code others).exec repeated follow)
      (Span.LeadsTo (fun before taken after => R before taken after ∨ S before taken after)
        goal) := by
  intro before after m
  have either : Span.LeadsTo (fun before taken after => R before taken after ∨ S before taken after)
      goal before after ↔ R.LeadsTo goal before after ∨ S.LeadsTo goal before after := by
    simp only [Span.LeadsTo, or_and_right, and_or_left, exists_or]
  rw [Code.exec_way, either]
  split
  · next misfit =>
    refine (two before after m).trans (or_iff_right fun reached => ?_).symm
    simp [Code.not_misfits one reached] at misfit
  · rw [orElse_iff fun failed => two before after _, one]

theorem decides_loop {body : Code} {R : Span} {greed : Greed} {least : Nat} {most : Option Nat}
    (each : ∀ ⦃follow goal⦄, Decides follow goal → Decides (body.exec true follow) (R.LeadsTo goal))
    (h : Decides (next.exec repeated follow) goal) (plain : greed ≠ .possessive)
    (fit : ∀ limit ∈ most, least ≤ limit) :
    Decides ((Code.loop greed least most body next).exec repeated follow)
      ((R.times least most).LeadsTo goal) := by
  intro before after m
  cases greed with
  | possessive => exact absurd rfl plain
  | greedy =>
    exact rounds_decide each fit (fun p => greedyRounds_decides each h (roundBound p) _ none) _ _ _
  | reluctant =>
    exact rounds_decide each fit
      (fun p => reluctantRounds_decides each h repeated (roundBound p) _ none) _ _ _

end Code

mutual

theorem Node.decides_code : (node : Node) → node.isPlain = true → ∀ {flags : PatternFlags}
    {next : Code} {repeated : Bool} {follow : Follow} {goal : Goal},
    Decides (next.exec repeated follow) goal →
    Decides ((node.code flags next).exec repeated follow) ((node.Spans flags).LeadsTo goal)
  | .char .., _, _, _, _, _, _, h | .any, _, _, _, _, _, _, h | .set .., _, _, _, _, _, _, h =>
    decides_single h
  | .anchor place, _, flags, _, _, _, goal, h => by
    intro before after m
    have here : ((Node.anchor place).Spans flags).LeadsTo goal before after ↔
        place.holds flags.multiline (allScripts flags) (.between before after) = true ∧
          goal before after := by
      simp [Span.LeadsTo, Node.Spans]
    rw [Node.code, Code.exec, here]
    split
    · next holds => simp [h _ _ _, holds]
    · next fails => simp [fails]
  | .group none _ _ body, plain, _, _, _, _, _, h => decides_codeOf body plain h
  | .group (some _) _ _ body, plain, _, _, _, _, _, h =>
    decides_mark (decides_codeOf body plain (decides_mark h))
  | .choice ways, plain, _, _, _, _, _, h => decides_codeOfWays ways plain h
  | .repeat least most greed body, plain, flags, next, repeated, follow, goal, h => by
    simp only [Node.isPlain, Bool.and_eq_true, bne_iff_ne, ne_eq, Option.all_eq_true] at plain
    obtain ⟨⟨active, fit⟩, plain⟩ := plain
    simp only [decide_eq_true_eq] at fit
    rw [Node.code, Node.Spans]
    split
    · next test single =>
      have same : SpansAll flags body = Span.one test.accepts := by
        funext before taken after
        exact propext (spans_of_onlySingle body single)
      intro before after m
      rw [Code.exec, same]
      exact execRun_iff h (Code.begins_of_decides h) active fit
    · -- a round of the body ends where its code does, with what follows the round
      refine decides_loop (fun follow goal h => ?_) h active fit
      have ends : Decides (Code.done.exec true follow) goal := h
      exact decides_codeOf body plain ends
  | .look .., plain, _, _, _, _, _, _ | .atomic _, plain, _, _, _, _, _, _
  | .backref _, plain, _, _, _, _, _, _ | .cond .., plain, _, _, _, _, _, _ => nomatch plain

theorem decides_codeOf : (parts : List Node) → arePlain parts = true → ∀ {flags : PatternFlags}
    {next : Code} {repeated : Bool} {follow : Follow} {goal : Goal},
    Decides (next.exec repeated follow) goal →
    Decides ((codeOf flags parts next).exec repeated follow) ((SpansAll flags parts).LeadsTo goal)
  | [], _, _, _, _, _, _, h => fun before after m => by
    rw [codeOf, h, SpansAll, Span.leadsTo_nothing]
  | node :: rest, plain, _, _, _, _, _, h => by
    obtain ⟨one, others⟩ := Bool.and_eq_true_iff.1 plain
    intro before after m
    rw [SpansAll, Span.leadsTo_andThen, codeOf]
    exact node.decides_code one (decides_codeOf rest others h) before after m

theorem decides_codeOfWays : (ways : List (List Node)) → waysPlain ways = true →
    ∀ {flags : PatternFlags} {repeated : Bool} {follow : Follow} {goal : Goal},
    Decides follow goal →
    Decides ((codeOfWays flags ways).exec repeated follow) ((SpansSome flags ways).LeadsTo goal)
  | [], _, _, _, _, _, _ => fun before after m => by
    simp [codeOfWays, Code.exec, Span.LeadsTo, SpansSome]
  | way :: rest, plain, _, repeated, follow, goal, h => by
    obtain ⟨one, others⟩ := Bool.and_eq_true_iff.1 plain
    have ends : Decides (Code.done.exec repeated follow) goal := h
    exact decides_way (decides_codeOf way one ends) (decides_codeOfWays rest others h)

end

/-! ## Searching -/

namespace Program

section

variable {flags : PatternFlags} {widths : List (Nat × Width)} {parts : List Node}

/-- A match is as long as the program says. -/
theorem least_le_of_leadsTo {goal : Goal} {before after : List Char}
    (leads : (SpansAll flags parts).LeadsTo goal before after) :
    (ofParts flags widths parts).least ≤ after.length := by
  obtain ⟨taken, rest, rfl, spans, -⟩ := leads
  calc (ofParts flags widths parts).least
    _ ≤ (widthOfAll widths parts).least := Nat.min_le_left _ _
    _ ≤ taken.length := least_le_of_spans widths parts spans
    _ ≤ (taken ++ rest).length := by simp

variable (plain : arePlain parts = true)
  (blind : ∀ test, (ofParts flags widths parts).start ≠ .before test)
include plain blind

theorem matchAt_iff (before after : List Char) :
    ((ofParts flags widths parts).matchAt (.between before after)).1 = true ↔
      (SpansAll flags parts).LeadsTo (fun _ _ => True) before after := by
  have ends : Decides (Code.done.exec false stop) fun _ _ => True := stop_decides
  have runs : Decides ((codeOf flags parts .done).exec false stop)
      ((SpansAll flags parts).LeadsTo fun _ _ => True) := decides_codeOf parts plain ends
  rw [matchAt]
  split
  · exact runs before after _
  · next refused =>
    refine iff_of_false (by simp) fun leads => refused ?_
    have : (ofParts flags widths parts).least ≤ after.length := least_le_of_leadsTo leads
    unfold canStart
    split
    · simp only [Place.room_between, decide_eq_true_eq]
      omega
    · rfl
    · next test known => exact absurd known (blind test)

theorem searchFrom_iff (before after : List Char) :
    (searchFrom (ofParts flags widths parts) (before.length + after.length) before.length before
      after).isSome = true ↔
      ∃ skipped rest, after = skipped ++ rest ∧
        (SpansAll flags parts).LeadsTo (fun _ _ => True) (skipped.reverse ++ before) rest := by
  induction after generalizing before with
  | nil =>
    have here := matchAt_iff plain blind before []
    rw [searchFrom]
    split <;> simp_all [Place.between]
  | cons c after ih =>
    have here := matchAt_iff plain blind before (c :: after)
    have size : before.length + (c :: after).length = (c :: before).length + after.length := by
      simp only [List.length_cons]
      omega
    rw [searchFrom, Place.exists_split_cons]
    split
    · next found => simp_all [Place.between]
    · next missed =>
      rw [size]
      refine (ih (c :: before)).trans ?_
      simp_all [Place.between]

/-- A search for a plain pattern that can start anywhere finds something just if the pattern matches
somewhere. -/
theorem search_isSome_iff (text : List Char) :
    ((ofParts flags widths parts).search text).isSome = true ↔
      ∃ skipped taken rest, text = skipped ++ (taken ++ rest) ∧
        SpansAll flags parts skipped.reverse taken rest := by
  have found := searchFrom_iff plain blind [] text
  have named : (∃ skipped after, text = skipped ++ after ∧
        (SpansAll flags parts).LeadsTo (fun _ _ => True) (skipped.reverse ++ []) after) ↔
      ∃ skipped taken rest, text = skipped ++ (taken ++ rest) ∧
        SpansAll flags parts skipped.reverse taken rest := by
    simp only [List.append_nil]
    constructor
    · rintro ⟨skipped, _, rfl, taken, rest, rfl, spans, -⟩
      exact ⟨skipped, taken, rest, rfl, spans⟩
    · rintro ⟨skipped, taken, rest, rfl, spans⟩
      exact ⟨skipped, _, rfl, taken, rest, rfl, spans, trivial⟩
  rw [search, ← named]
  split
  · next short =>
    refine iff_of_false (by simp) ?_
    rintro ⟨skipped, after, rfl, leads⟩
    have : (ofParts flags widths parts).least ≤ after.length := least_le_of_leadsTo leads
    rw [List.length_append] at short
    omega
  · rw [← found, List.length_nil, Nat.zero_add]

end

end Program

end RecordCheck.Pattern
