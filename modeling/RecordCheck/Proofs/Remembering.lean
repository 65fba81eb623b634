import Mathlib
import RecordCheck.Pattern.Basic
import RecordCheck.Proofs.Spans

/-!
# What a search remembers

A search for a plain pattern remembers each group from an earlier place to a later one, so that it
never fails. A failed attempt can leave places behind, but outside of repetitions only those of
groups that begin later, which are given up, and ends of groups that are still open, which are
remembered anew before the match is complete.

## Main definitions

* `Node.countFrom`, `countAll`: how many groups there are, if they are numbered in their order.
* `Memory.Orderly`: the groups that are not open are remembered in order.
* `Stage`, `Keeps`: where in a pattern an attempt is made, and that it remembers in order.

## Main statements

* `found_plain`: whether a plain pattern is found always has an answer.
-/
set_option autoImplicit false

namespace RecordCheck.Pattern

/-! ## Slots -/

namespace Memory

/-- The place that a slot holds. -/
def slot? (m : Memory) (i : Nat) : Option Nat := m.slots[i]?.join

@[simp]
theorem slot?_reach (m : Memory) (index i : Nat) : (m.reach index).slot? i = m.slot? i := rfl

theorem fill_get (index slot : Nat) (slots : List (Option Nat)) (i : Nat) :
    (fill index slot slots)[i]?.join = if i = slot then some index else slots[i]?.join := by
  induction slot generalizing slots i with
  | zero => cases slots <;> cases i <;> simp [fill]
  | succ slot ih =>
    cases slots with
    | nil => cases i <;> simp [fill, ih]
    | cons entry slots => cases i <;> simp [fill, ih]

theorem length_fill (index slot : Nat) (slots : List (Option Nat)) :
    (fill index slot slots).length = max slots.length (slot + 1) := by
  induction slot generalizing slots with
  | zero => cases slots <;> simp [fill]
  | succ slot ih => cases slots <;> simp [fill, ih, Nat.succ_max_succ]

theorem slot?_mark (m : Memory) (slot index i : Nat) :
    (m.mark slot index).slot? i = if i = slot then some index else m.slot? i :=
  fill_get index slot m.slots i

theorem slot?_eq_none {m : Memory} {i : Nat} (beyond : m.slots.length ≤ i) : m.slot? i = none := by
  rw [slot?, List.getElem?_eq_none beyond, Option.join_none]

theorem slot?_giveUp (m started : Memory) (repeated : Bool) (i : Nat) :
    (m.giveUp repeated started).slot? i = if repeated then started.slot? i
      else if i < started.slots.length then m.slot? i else none := by
  cases repeated with
  | true => rfl
  | false =>
    simp only [giveUp, slot?, List.getElem?_take, Bool.false_eq_true, if_false]
    split <;> rfl

theorem isTangled_eq_false_iff (slots : List (Option Nat)) : isTangled slots = false ↔
    ∀ group first last, slots[2 * group]?.join = some first →
      slots[2 * group + 1]?.join = some last → first ≤ last := by
  fun_induction isTangled slots with
  | case1 first last rest ih =>
    rw [← Nat.and_forall_add_one]
    simp [ih, Nat.mul_add]
  | case2 entry entry' rest other ih =>
    rw [← Nat.and_forall_add_one]
    cases entry <;> cases entry' <;> simp_all [Nat.mul_add]
  | case3 slots _ short =>
    match slots, short with
    | [], _ => simp
    | [entry], _ => simp
    | entry :: entry' :: rest, short => exact (short entry entry' rest rfl).elim

end Memory

/-! ## Stages of a match -/

/-- A stage of a match: how many groups come before it, which of them are open, and, inside of
repetitions, how many groups come before the outermost repetition and by the end of it. Groups are
counted from zero here. -/
structure Stage where
  loop : Option (Nat × Nat)
  count : Nat
  opened : List Nat

namespace Stage

/-- The groups that attempts from a stage leave alone are fewer than this, apart from the ends of
open ones. -/
def low (s : Stage) : Nat := (s.loop.map (·.1)).getD s.count

/-- No more groups than these can be remembered at a stage. -/
def high (s : Stage) : Nat := (s.loop.map (·.2)).getD s.count

/-- Open groups come before the stage, and a repetition around it. -/
structure IsSound (s : Stage) : Prop where
  opened_lt : ∀ g ∈ s.opened, g < s.count
  low_le : s.low ≤ s.count
  le_high : s.count ≤ s.high

/-- What is remembered at a stage: open groups began no later than the place, others are in order.
-/
structure Ready (s : Stage) (index : Nat) (m : Memory) : Prop where
  short : m.slots.length ≤ 2 * s.high
  opened : ∀ g ∈ s.opened, ∃ first ≤ index, m.slot? (2 * g) = some first
  ordered : ∀ g ∉ s.opened, ∀ first last, m.slot? (2 * g) = some first →
    m.slot? (2 * g + 1) = some last → first ≤ last

/-- What an attempt from a stage leaves alone. -/
def Spares (s : Stage) (m after : Memory) : Prop :=
  ∀ i < 2 * s.low, (∀ g ∈ s.opened, i ≠ 2 * g + 1) → after.slot? i = m.slot? i

/-- An outcome from a stage: what is left alone, and that a match is remembered in order. -/
structure Fine (s : Stage) (m : Memory) (outcome : Outcome) : Prop where
  spares : s.Spares m outcome.2
  ordered : outcome.1 = true → Memory.isTangled outcome.2.slots = false

/-- An attempt from a stage that leaves alone what it must and remembers in order. -/
def Keeps (s : Stage) (follow : Follow) : Prop :=
  ∀ p m, s.Ready p.index m → s.Fine m (follow p m)

variable {s : Stage} {m started failed : Memory} {index index' : Nat} {outcome : Outcome}

/-- A stage from which less is left alone, and where no more can be remembered. -/
structure Weaker (s t : Stage) : Prop where
  opened : t.opened = s.opened
  low : s.low ≤ t.low
  high : s.high ≤ t.high

namespace Ready

theorem weaken {t : Stage} (h : s.Ready index m) (w : s.Weaker t) : t.Ready index m :=
  ⟨h.short.trans (Nat.mul_le_mul_left 2 w.high), w.opened ▸ h.opened, w.opened ▸ h.ordered⟩

theorem mono (h : s.Ready index m) (le : index ≤ index') : s.Ready index' m :=
  ⟨h.short, fun g member =>
    let ⟨first, before, held⟩ := h.opened g member
    ⟨first, before.trans le, held⟩, h.ordered⟩

theorem reach (h : s.Ready index m) (reached : Nat) : s.Ready index (m.reach reached) :=
  ⟨h.short, h.opened, h.ordered⟩

end Ready

namespace Spares

theorem refl (s : Stage) (m : Memory) : s.Spares m m := fun _ _ _ => rfl

theorem trans {middle after : Memory} (one : s.Spares m middle) (two : s.Spares middle after) :
    s.Spares m after := fun i below free => (two i below free).trans (one i below free)

theorem weaken {t : Stage} {after : Memory} (h : t.Spares m after) (w : s.Weaker t) :
    s.Spares m after := fun i below free =>
  h i (below.trans_le (Nat.mul_le_mul_left 2 w.low)) (w.opened ▸ free)

end Spares

namespace Fine

theorem weaken {t : Stage} (h : t.Fine m outcome) (w : s.Weaker t) : s.Fine m outcome :=
  ⟨h.spares.weaken w, h.ordered⟩

theorem failure (spared : s.Spares m failed) : s.Fine m (false, failed) := ⟨spared, nofun⟩

theorem after (spared : s.Spares m started) (fine : s.Fine started outcome) : s.Fine m outcome :=
  ⟨spared.trans fine.spares, fine.ordered⟩

theorem orElse {next : Memory → Outcome} (fine : s.Fine m outcome)
    (other : ∀ failed, s.Spares m failed → s.Fine m (next failed)) :
    s.Fine m (Pattern.orElse outcome next) := by
  obtain ⟨succeeded, after⟩ := outcome
  cases succeeded with
  | true => exact fine
  | false => exact other after fine.spares

end Fine

/-- What a failed attempt leaves behind is given up, as far as it matters. -/
theorem Ready.giveUp (h : s.Ready index started) (sound : s.IsSound)
    (spared : s.Spares started failed) :
    s.Ready index (failed.giveUp s.loop.isSome started) ∧
      s.Spares started (failed.giveUp s.loop.isSome started) := by
  obtain ⟨loop, count, opened⟩ := s
  cases loop with
  | some bounds => exact ⟨⟨h.short, h.opened, h.ordered⟩, fun _ _ _ => rfl⟩
  | none =>
    have short : started.slots.length ≤ 2 * count := h.short
    -- what a failed attempt has changed lies beyond the slots that there were, or ends open groups
    have kept (i : Nat) (free : ∀ g ∈ opened, i ≠ 2 * g + 1) :
        (failed.giveUp false started).slot? i = started.slot? i := by
      rw [Memory.slot?_giveUp]
      simp only [Bool.false_eq_true, if_false]
      split
      · next inside => exact spared i (inside.trans_le short) free
      · next beyond => exact (Memory.slot?_eq_none (Nat.le_of_not_lt beyond)).symm
    refine ⟨⟨?_, fun g member => ?_, fun g closed first last => ?_⟩, fun i _ free => kept i free⟩
    · exact (List.length_take_le _ _).trans short
    · rw [Option.isSome_none, kept (2 * g) fun _ _ => by omega]
      exact h.opened g member
    · rw [Option.isSome_none, kept (2 * g) fun _ _ => by omega,
        kept (2 * g + 1) fun g' member same => closed ((by omega : g = g') ▸ member)]
      exact h.ordered g closed first last

namespace Keeps

variable {t : Stage} {follow : Follow}

/-- An attempt from a place that is not before the one that was ready. -/
theorem fine (h : s.Keeps follow) {p : Place} (ready : s.Ready index m) (le : index ≤ p.index)
    (spared : s.Spares started m) (reached : Nat) :
    s.Fine started (follow p (m.reach reached)) :=
  have spared : s.Spares started (m.reach reached) := spared
  .after spared (h p _ ((ready.mono le).reach reached))

theorem weaken (h : t.Keeps follow) (w : s.Weaker t) : s.Keeps follow :=
  fun p m ready => (h p m (ready.weaken w)).weaken w

end Keeps

end Stage

/-! ## Repetition of a test -/

section Run

variable {s : Stage} {m started : Memory} {index : Nat} {follow : Follow} {test : Single}

theorem tryAll_fine (h : s.Keeps follow) (sound : s.IsSound) {places : List Place}
    (ahead : ∀ q ∈ places, index ≤ q.index) (start : s.Ready index started)
    (ready : s.Ready index m) (spared : s.Spares started m) :
    s.Fine started (tryAll follow s.loop.isSome started places m) := by
  induction places generalizing m with
  | nil => exact .failure spared
  | cons q places ih =>
    refine (h.fine ready (ahead q (.head _)) spared _).orElse fun failed spared => ?_
    obtain ⟨ready, spared⟩ := start.giveUp sound spared
    exact ih (fun q member => ahead q (.tail _ member)) ready spared

theorem tryOnward_fine (h : s.Keeps follow) (sound : s.IsSound) (start : s.Ready index started)
    {size here : Nat} {before after : List Char} {most : Option Nat} (le : index ≤ here)
    (ready : s.Ready index m) (spared : s.Spares started m) :
    s.Fine started
      (tryOnward test follow s.loop.isSome started size here before after most m) := by
  induction after generalizing here before most m with
  | nil =>
    exact (h.fine ready le spared _).orElse fun failed spared =>
      .failure (start.giveUp sound spared).2
  | cons c rest ih =>
    refine (h.fine ready le spared _).orElse fun failed spared => ?_
    obtain ⟨ready, spared⟩ := start.giveUp sound spared
    dsimp only
    split
    · split
      · exact .failure spared
      · exact ih (le.trans (Nat.le_succ _)) ready spared
    · exact .failure spared

theorem Place.le_index_of_mem_spread {accepts : Nat → Bool} {size index : Nat}
    {before after : List Char} {most : Option Nat} {q : Place}
    (member : q ∈ spreadFrom accepts size index before after most) : index ≤ q.index := by
  induction after generalizing index before most with
  | nil =>
    obtain rfl := List.mem_singleton.1 member
    exact Nat.le_refl _
  | cons c rest ih =>
    rw [spreadFrom] at member
    split at member
    · obtain rfl | member := List.mem_cons.1 member
      · exact Nat.le_refl _
      · exact (Nat.le_succ _).trans (ih member)
    · obtain rfl := List.mem_singleton.1 member
      exact Nat.le_refl _

theorem Place.le_index_ahead (n : Nat) (p : Place) : p.index ≤ (p.ahead n).index := by
  induction n generalizing p with
  | zero => exact Nat.le_refl _
  | succ n ih =>
    rw [ahead]
    split
    · next c rest _ => exact (Nat.le_succ _).trans (ih ⟨p.size, p.index + 1, c :: p.before, rest⟩)
    · exact Nat.le_refl _

theorem execRun_keeps (h : s.Keeps follow) (sound : s.IsSound) (greed : Greed) (least : Nat)
    (most wanted : Option Nat) :
    s.Keeps (execRun greed least most test wanted s.loop.isSome follow) := by
  intro p m ready
  unfold execRun
  split
  · exact .failure (.refl s m)
  dsimp only
  generalize (if greed == .reluctant then some least else most) = bound
  split
  · exact .failure (.refl s m)
  cases greed with
  | greedy =>
    refine tryAll_fine h sound (fun q member => ?_) ready (ready.reach _) (.refl s m)
    have member := List.mem_of_mem_drop (List.mem_reverse.1 (List.mem_filter.1 member).1)
    exact Place.le_index_of_mem_spread member
  | possessive =>
    dsimp only
    split
    · next q last =>
      have le := Place.le_index_of_mem_spread (List.mem_of_getLast? last)
      exact h.fine ready le (.refl s m) _
    · exact .failure (.refl s m)
  | reluctant =>
    exact tryOnward_fine h sound ready (Place.le_index_ahead least p) (ready.reach _) (.refl s m)

end Run

/-! ## Repetition of a body -/

section Rounds

variable {s t : Stage} {round : Follow → Follow} {follow : Follow}
  (each : ∀ ⦃follow⦄, s.Keeps follow → s.Keeps (round follow))

include each

theorem requiredRounds_keeps (h : s.Keeps follow) (n : Nat) :
    s.Keeps (requiredRounds round n follow) := by
  induction n with
  | zero => exact h
  | succ n ih =>
    intro p m ready
    exact ((each ih).fine ready (Nat.le_refl _) (.refl s m) _).orElse fun failed spared =>
      .failure spared

theorem greedyRounds_keeps (sound : s.IsSound) (inside : s.loop.isSome = true) (h : s.Keeps follow)
    (fuel : Nat) (most last : Option Nat) : s.Keeps (greedyRounds round follow fuel most last) := by
  have leave {p : Place} {m started : Memory} (ready : s.Ready p.index m)
      (spared : s.Spares started m) : s.Fine started
        (orElse (follow p (m.reach p.index)) fun m => (false, m.reach p.index)) :=
    (h.fine ready (Nat.le_refl _) spared _).orElse fun failed spared => .failure spared
  induction fuel generalizing most last with
  | zero => exact fun p m ready => leave ready (.refl s m)
  | succ fuel ih =>
    intro p m ready
    rw [greedyRounds]
    dsimp only
    split
    · exact leave ready (.refl s m)
    · refine ((each (ih _ _)).fine ready (Nat.le_refl _) (.refl s m) _).orElse
        fun failed spared => ?_
      obtain ⟨ready, spared⟩ := ready.giveUp sound spared
      rw [inside] at ready spared
      exact leave ready spared

/-- What follows the rounds is attempted first here, from a stage outside of the repetition. -/
theorem reluctantRounds_keeps (sound : t.IsSound) (outside : s.Weaker t) (high : t.high ≤ s.high)
    (h : t.Keeps follow) (fuel : Nat) (most last : Option Nat) :
    s.Keeps (reluctantRounds round follow t.loop.isSome fuel most last) := by
  induction fuel generalizing most last with
  | zero =>
    intro p m ready
    have ready := ready.weaken outside
    have fine := h.fine ready (Nat.le_refl _) (.refl t m) p.index
    refine Stage.Fine.weaken ?_ outside
    exact fine.orElse fun failed spared => .failure (ready.giveUp sound spared).2
  | succ fuel ih =>
    intro p m ready
    rw [reluctantRounds]
    have ready := ready.weaken outside
    have fine := h.fine ready (Nat.le_refl _) (.refl t m) p.index
    generalize follow p (m.reach p.index) = outcome at fine
    obtain ⟨succeeded, failed⟩ := outcome
    cases succeeded with
    | true => exact fine.weaken outside
    | false =>
      obtain ⟨ready, spared⟩ := ready.giveUp sound fine.spares
      have ready : s.Ready p.index (failed.giveUp t.loop.isSome m) :=
        ⟨ready.short.trans (Nat.mul_le_mul_left 2 high), outside.opened ▸ ready.opened,
          outside.opened ▸ ready.ordered⟩
      have spared := spared.weaken outside
      rw [orElse]
      dsimp only
      split
      · exact .failure spared
      · exact ((each (ih _ _)).fine ready (Nat.le_refl _) spared _).orElse fun failed spared =>
          .failure spared

end Rounds

/-! ## Groups -/

mutual

/-- The number of groups up to the end of a part, if they are numbered in the order in which they
begin. -/
def Node.countFrom (count : Nat) : Node → Option Nat
  | .group (some number) _ _ body =>
    if number = count + 1 then countAll (count + 1) body else none
  | .group none _ _ body | .repeat _ _ _ body | .look _ _ _ body | .atomic body =>
    countAll count body
  | .choice ways => countWays count ways
  | .cond _ yes no => (countAll count yes).bind fun n => countAll n no
  | .char .. | .any | .set .. | .anchor _ | .backref _ => some count

/-- The number of groups up to the end of a sequence. -/
def countAll (count : Nat) : List Node → Option Nat
  | [] => some count
  | node :: rest => (node.countFrom count).bind fun n => countAll n rest

/-- The number of groups up to the end of several sequences. -/
def countWays (count : Nat) : List (List Node) → Option Nat
  | [] => some count
  | way :: rest => (countAll count way).bind fun n => countWays n rest

end

mutual

theorem Node.le_countFrom : (node : Node) → ∀ {count n : Nat}, node.countFrom count = some n →
    count ≤ n
  | .group (some number) _ _ body, count, n, counted => by
    rw [Node.countFrom] at counted
    split at counted
    · exact (Nat.le_succ count).trans (le_countAll body counted)
    · cases counted
  | .group none _ _ body, _, _, counted | .repeat _ _ _ body, _, _, counted
  | .look _ _ _ body, _, _, counted | .atomic body, _, _, counted => le_countAll body counted
  | .choice ways, _, _, counted => le_countWays ways counted
  | .cond _ yes no, _, _, counted => by
    obtain ⟨n, one, two⟩ := Option.bind_eq_some_iff.1 counted
    exact (le_countAll yes one).trans (le_countAll no two)
  | .char .., _, _, counted | .any, _, _, counted | .set .., _, _, counted
  | .anchor _, _, _, counted | .backref _, _, _, counted => (Option.some.inj counted).le

theorem le_countAll : (parts : List Node) → ∀ {count n : Nat}, countAll count parts = some n →
    count ≤ n
  | [], _, _, counted => (Option.some.inj counted).le
  | node :: rest, _, _, counted => by
    obtain ⟨n, one, others⟩ := Option.bind_eq_some_iff.1 counted
    exact (node.le_countFrom one).trans (le_countAll rest others)

theorem le_countWays : (ways : List (List Node)) → ∀ {count n : Nat},
    countWays count ways = some n → count ≤ n
  | [], _, _, counted => (Option.some.inj counted).le
  | way :: rest, _, _, counted => by
    obtain ⟨n, one, others⟩ := Option.bind_eq_some_iff.1 counted
    exact (le_countAll way one).trans (le_countWays rest others)

end

namespace Stage

variable {s : Stage} {n : Nat} {follow : Follow}

/-- The stage after a number of groups. -/
def move (s : Stage) (n : Nat) : Stage := { s with count := n }

/-- The stage inside the next group. -/
def enter (s : Stage) : Stage := { s with count := s.count + 1, opened := s.count :: s.opened }

/-- The stage inside a repetition, by the end of which there are a number of groups. -/
def repeating (s : Stage) (n : Nat) : Stage := { s with loop := some (s.low, (s.move n).high) }

theorem high_mono {count n : Nat} (le : count ≤ n) : (s.move count).high ≤ (s.move n).high := by
  obtain ⟨_ | bounds, _, _⟩ := s
  · exact le
  · exact Nat.le_refl _

theorem low_mono {count n : Nat} (le : count ≤ n) : (s.move count).low ≤ (s.move n).low := by
  obtain ⟨_ | bounds, _, _⟩ := s
  · exact le
  · exact Nat.le_refl _

theorem weaker_move {count n : Nat} (le : count ≤ n) : (s.move count).Weaker (s.move n) :=
  ⟨rfl, low_mono le, high_mono le⟩

/-- The stages between two sound ones are sound. -/
theorem IsSound.between (one : s.IsSound) {k : Nat} (two : (s.move n).IsSound) (le : s.count ≤ k)
    (le' : k ≤ n) : (s.move k).IsSound := by
  obtain ⟨_ | bounds, _, _⟩ := s
  · exact ⟨fun g member => (one.opened_lt g member).trans_le le, Nat.le_refl _, Nat.le_refl _⟩
  · exact ⟨fun g member => (one.opened_lt g member).trans_le le, one.low_le.trans le,
      le'.trans two.le_high⟩

theorem IsSound.enter (sound : s.IsSound) (two : (s.move n).IsSound) (lt : s.count < n) :
    s.enter.IsSound := by
  have between := sound.between two (Nat.le_succ _) lt
  refine ⟨?_, between.low_le, between.le_high⟩
  simp only [Stage.enter, List.forall_mem_cons]
  exact ⟨Nat.lt_succ_self _, fun g member => (sound.opened_lt g member).trans (Nat.lt_succ_self _)⟩

/-- A group begins. -/
theorem Keeps.begin (h : s.enter.Keeps follow) (sound : s.IsSound) (inner : s.enter.IsSound) :
    s.Keeps fun p m => follow p (m.mark (2 * s.count) p.index) := by
  have low : s.low ≤ s.enter.low := low_mono (Nat.le_succ s.count)
  have high : s.high ≤ s.enter.high := high_mono (Nat.le_succ s.count)
  have le : s.count + 1 ≤ s.enter.high := inner.le_high
  intro p m ready
  have short := ready.short
  have ready : s.enter.Ready p.index (m.mark (2 * s.count) p.index) := by
    refine ⟨?_, fun g member => ?_, fun g closed first last => ?_⟩
    · rw [Memory.mark, Memory.length_fill]
      omega
    · rw [Memory.slot?_mark]
      split
      · exact ⟨p.index, Nat.le_refl _, rfl⟩
      · next other =>
        have ne : g ≠ s.count := fun same => other (same ▸ rfl)
        exact ready.opened g ((List.mem_cons.1 member).resolve_left ne)
    · obtain ⟨ne, closed⟩ := not_or.1 (mt List.mem_cons.2 closed)
      rw [Memory.slot?_mark, Memory.slot?_mark, if_neg (by omega), if_neg (by omega)]
      exact ready.ordered g closed first last
  have fine := h p _ ready
  refine ⟨fun i below free => ?_, fine.ordered⟩
  -- neither slot of the new group is among those that attempts leave alone
  have low_le := sound.low_le
  rw [fine.spares i (by omega), Memory.slot?_mark, if_neg (by omega)]
  simp only [Stage.enter, List.forall_mem_cons]
  exact ⟨by omega, free⟩

/-- A group ends. -/
theorem Keeps.finish {g : Nat} (h : s.Keeps follow) (sound : s.IsSound) (lt : g < s.count)
    (closed : g ∉ s.opened) :
    { s with opened := g :: s.opened : Stage }.Keeps
      fun p m => follow p (m.mark (2 * g + 1) p.index) := by
  intro p m ready
  have short := ready.short
  have le := sound.le_high
  have ready : s.Ready p.index (m.mark (2 * g + 1) p.index) := by
    refine ⟨?_, fun g' member => ?_, fun g' closed first last => ?_⟩
    · rw [Memory.mark, Memory.length_fill]
      change m.slots.length ≤ 2 * s.high at short
      omega
    · rw [Memory.slot?_mark, if_neg (by omega)]
      exact ready.opened g' (.tail _ member)
    · rw [Memory.slot?_mark, Memory.slot?_mark, if_neg (by omega)]
      by_cases same : g' = g
      · -- an open group began no later than here
        subst same
        obtain ⟨began, le, held⟩ := ready.opened g' (.head _)
        rw [held, if_pos rfl]
        rintro ⟨⟩ ⟨⟩
        exact le
      · rw [if_neg (by omega)]
        exact ready.ordered g' (by simp [same, closed]) first last
  have fine := h p _ ready
  refine ⟨fun i below free => ?_, fine.ordered⟩
  obtain ⟨ne, free⟩ := List.forall_mem_cons.1 free
  rw [fine.spares i below free, Memory.slot?_mark, if_neg ne]

end Stage

/-! ## Code -/

section Code

variable {s : Stage} {n : Nat} {next : Code} {follow : Follow}

theorem Place.index_of_step? {test : Nat → Bool} {p q : Place} (moved : p.step? test = some q) :
    q.index = p.index + 1 := by
  unfold step? at moved
  split at moved
  · split at moved
    · cases moved
      rfl
    · cases moved
  · cases moved

theorem single_keeps (test : Single) (h : s.Keeps (next.exec s.loop.isSome follow)) :
    s.Keeps ((Code.single test next).exec s.loop.isSome follow) := by
  intro p m ready
  rw [Code.exec_single]
  split
  · next q moved =>
    have le : p.index ≤ q.index := (Place.index_of_step? moved).ge.trans' (Nat.le_succ _)
    exact h q m (ready.mono le)
  · exact .failure (.refl s m)

theorem way_keeps {first others : Code} (sound : s.IsSound)
    (one : s.Keeps (first.exec s.loop.isSome follow))
    (two : s.Keeps (others.exec s.loop.isSome follow)) :
    s.Keeps ((Code.way first others).exec s.loop.isSome follow) := by
  intro p m ready
  rw [Code.exec_way]
  split
  · exact two p m ready
  · refine (one.fine ready (Nat.le_refl _) (.refl s m) _).orElse fun failed spared => ?_
    obtain ⟨ready, spared⟩ := ready.giveUp sound spared
    exact .after spared (two p _ ready)

theorem loop_keeps {body : Code} {greed : Greed} (least : Nat) (most : Option Nat)
    (plain : greed ≠ .possessive) (sound : s.IsSound) (ends : (s.move n).IsSound)
    (le : s.count ≤ n)
    (each : ∀ ⦃follow⦄, (s.repeating n).Keeps follow →
      (s.repeating n).Keeps (body.exec true follow))
    (h : (s.move n).Keeps (next.exec s.loop.isSome follow)) :
    s.Keeps ((Code.loop greed least most body next).exec s.loop.isSome follow) := by
  have outside : (s.repeating n).Weaker (s.move n) := ⟨rfl, Stage.low_mono le, Nat.le_refl _⟩
  have inside : s.Weaker (s.repeating n) := ⟨rfl, Nat.le_refl _, Stage.high_mono le⟩
  have inner : (s.repeating n).IsSound :=
    ⟨sound.opened_lt, sound.low_le, le.trans ends.le_high⟩
  have start {rounds : Follow} (h : (s.repeating n).Keeps rounds) :
      s.Keeps fun p m => requiredRounds (body.exec true) least rounds p (m.reach p.index) :=
    fun p m ready => ((requiredRounds_keeps each h least).weaken inside).fine ready (Nat.le_refl _)
      (.refl s m) _
  cases greed with
  | possessive => exact absurd rfl plain
  | greedy =>
    exact start fun p m ready =>
      greedyRounds_keeps each inner rfl (h.weaken outside) (roundBound p) _ none p m ready
  | reluctant =>
    exact start fun p m ready =>
      reluctantRounds_keeps each ends outside (Nat.le_refl _) h (roundBound p) _ none p m ready

end Code

mutual

theorem Node.keeps_code : (node : Node) → node.isPlain = true → ∀ {s : Stage} {n : Nat},
    node.countFrom s.count = some n → s.IsSound → (s.move n).IsSound →
    ∀ {flags : PatternFlags} {next : Code} {follow : Follow},
    (s.move n).Keeps (next.exec s.loop.isSome follow) →
    s.Keeps ((node.code flags next).exec s.loop.isSome follow)
  | .char .., _, _, _, counted, _, _, _, _, _, h | .any, _, _, _, counted, _, _, _, _, _, h
  | .set .., _, _, _, counted, _, _, _, _, _, h => by
    obtain rfl := Option.some.inj counted
    exact single_keeps _ h
  | .anchor place, _, s, _, counted, _, _, _, _, _, h => by
    obtain rfl := Option.some.inj counted
    intro p m ready
    rw [Node.code, Code.exec]
    split
    · exact h p m ready
    · exact .failure (.refl s m)
  | .group none _ _ body, plain, _, _, counted, sound, ends, _, _, _, h =>
    keeps_codeOf body plain counted sound ends h
  | .group (some number) _ _ body, plain, s, n, counted, sound, ends, flags, next, follow, h => by
    rw [Node.countFrom] at counted
    split at counted
    · next same =>
      subst same
      have lt : s.count < n := le_countAll body counted
      have inner := sound.enter ends lt
      have first : 2 * (s.count + 1) - 2 = 2 * s.count := by omega
      have last : 2 * (s.count + 1) - 1 = 2 * s.count + 1 := by omega
      have closed : s.count ∉ s.opened := fun member =>
        absurd (sound.opened_lt _ member) (Nat.lt_irrefl _)
      have finish : (s.enter.move n).Keeps
          ((Code.mark (2 * s.count + 1) next).exec s.loop.isSome follow) :=
        h.finish ends lt closed
      have innerEnds : (s.enter.move n).IsSound :=
        ⟨List.forall_mem_cons.2 ⟨lt, ends.opened_lt⟩, ends.low_le, ends.le_high⟩
      rw [Node.code, first, last]
      exact (keeps_codeOf body plain counted inner innerEnds finish).begin sound inner
    · cases counted
  | .choice ways, plain, _, _, counted, sound, ends, _, _, _, h =>
    keeps_codeOfWays ways plain counted sound ends h
  | .repeat least most greed body, plain, s, n, counted, sound, ends, flags, next, follow, h => by
    simp only [Node.isPlain, Bool.and_eq_true, bne_iff_ne, ne_eq] at plain
    obtain ⟨⟨active, -⟩, plain⟩ := plain
    have le : s.count ≤ n := le_countAll body counted
    rw [Node.code]
    split
    · exact (execRun_keeps h ends greed least most _).weaken (Stage.weaker_move le)
    · refine loop_keeps least most active sound ends le (fun follow h => ?_) h
      have inner : (s.repeating n).IsSound :=
        ⟨sound.opened_lt, sound.low_le, le.trans ends.le_high⟩
      have innerEnds : ((s.repeating n).move n).IsSound :=
        ⟨ends.opened_lt, sound.low_le.trans le, ends.le_high⟩
      -- inside of a repetition, what is left alone does not depend on the count
      have after : ((s.repeating n).move n).Keeps (Code.done.exec true follow) :=
        h.weaken ⟨rfl, Nat.le_refl _, Nat.le_refl _⟩
      exact keeps_codeOf (s := s.repeating n) body plain counted inner innerEnds after
  | .look .., plain, _, _, _, _, _, _, _, _, _ | .atomic _, plain, _, _, _, _, _, _, _, _, _
  | .backref _, plain, _, _, _, _, _, _, _, _, _ | .cond .., plain, _, _, _, _, _, _, _, _, _ =>
    nomatch plain

theorem keeps_codeOf : (parts : List Node) → arePlain parts = true → ∀ {s : Stage} {n : Nat},
    countAll s.count parts = some n → s.IsSound → (s.move n).IsSound →
    ∀ {flags : PatternFlags} {next : Code} {follow : Follow},
    (s.move n).Keeps (next.exec s.loop.isSome follow) →
    s.Keeps ((codeOf flags parts next).exec s.loop.isSome follow)
  | [], _, _, _, counted, _, _, _, _, _, h => by
    obtain rfl := Option.some.inj counted
    exact h
  | node :: rest, plain, s, n, counted, sound, ends, flags, next, follow, h => by
    obtain ⟨one, others⟩ := Bool.and_eq_true_iff.1 plain
    obtain ⟨k, counted, countedRest⟩ := Option.bind_eq_some_iff.1 counted
    have middle := sound.between ends (node.le_countFrom counted) (le_countAll rest countedRest)
    exact node.keeps_code one counted sound middle
      (keeps_codeOf (s := s.move k) rest others countedRest middle ends h)

theorem keeps_codeOfWays : (ways : List (List Node)) → waysPlain ways = true →
    ∀ {s : Stage} {n : Nat}, countWays s.count ways = some n → s.IsSound → (s.move n).IsSound →
    ∀ {flags : PatternFlags} {follow : Follow}, (s.move n).Keeps follow →
    s.Keeps ((codeOfWays flags ways).exec s.loop.isSome follow)
  | [], _, s, _, _, _, _, _, _, _ => fun p m _ => .failure (.refl s m)
  | way :: rest, plain, s, n, counted, sound, ends, flags, follow, h => by
    obtain ⟨one, others⟩ := Bool.and_eq_true_iff.1 plain
    obtain ⟨k, counted, countedRest⟩ := Option.bind_eq_some_iff.1 counted
    have le := le_countAll way counted
    have le' := le_countWays rest countedRest
    have middle := sound.between ends le le'
    have after : (s.move k).Keeps (Code.done.exec s.loop.isSome follow) :=
      h.weaken (Stage.weaker_move le')
    have later : (s.move k).Keeps ((codeOfWays flags rest).exec s.loop.isSome follow) :=
      keeps_codeOfWays (s := s.move k) rest others countedRest middle ends h
    exact way_keeps sound (keeps_codeOf way one counted sound middle after)
      (later.weaken (Stage.weaker_move le))

end

/-! ## Searching -/

theorem stop_keeps (n : Nat) : Stage.Keeps ⟨none, n, []⟩ stop := fun _ m ready =>
  ⟨fun _ _ _ => rfl, fun _ =>
    (Memory.isTangled_eq_false_iff m.slots).2 fun g => ready.ordered g List.not_mem_nil⟩

namespace Program

variable {flags : PatternFlags} {widths : List (Nat × Width)} {parts : List Node} {n : Nat}
  (plain : arePlain parts = true) (counted : countAll 0 parts = some n)
include plain counted

theorem matchAt_ordered {p : Place} {m : Memory}
    (found : (ofParts flags widths parts).matchAt p = (true, m)) :
    Memory.isTangled m.slots = false := by
  let start : Stage := ⟨none, 0, []⟩
  have sound (k : Nat) : (start.move k).IsSound := ⟨nofun, Nat.le_refl _, Nat.le_refl _⟩
  have keeps : start.Keeps ((codeOf flags parts .done).exec false stop) :=
    keeps_codeOf (s := start) parts plain counted (sound 0) (sound n) (stop_keeps n)
  have ready : start.Ready p.index { reached := p.index } := by
    refine ⟨Nat.le_refl _, nofun, fun g _ first last began => ?_⟩
    rw [Memory.slot?_eq_none (Nat.zero_le _)] at began
    cases began
  unfold matchAt at found
  split at found
  · have fine := keeps p _ ready
    change (codeOf flags parts .done).exec false stop p _ = _ at found
    rw [found] at fine
    exact fine.ordered rfl
  · cases found

theorem searchFrom_ordered {size index : Nat} {before after : List Char} {m : Memory}
    (found : searchFrom (ofParts flags widths parts) size index before after = some m) :
    Memory.isTangled m.slots = false := by
  induction after generalizing index before with
  | nil =>
    rw [searchFrom] at found
    split at found
    · next matched =>
      cases found
      exact matchAt_ordered plain counted matched
    · cases found
  | cons c after ih =>
    rw [searchFrom] at found
    split at found
    · next matched =>
      cases found
      exact matchAt_ordered plain counted matched
    · exact ih found

end Program

/-- Whether a plain pattern over text is found always has an answer. -/
theorem found_plain {p : Pattern} (isText : p.isText = true) {flags : PatternFlags}
    {widths : List (Nat × Width)} {parts : List Node} {n : Nat}
    (made : p.program = .ofParts flags widths parts) (plain : arePlain parts = true)
    (counted : countAll 0 parts = some n) (text : List Char) :
    p.found text = .ok (p.program.search text).isSome := by
  rw [found, isText, Bool.not_true, if_neg Bool.false_ne_true, made]
  split
  · next missed => rw [missed]; rfl
  · next m found =>
    rw [found]
    unfold Program.search at found
    split at found
    · cases found
    · rw [Program.searchFrom_ordered plain counted found]
      rfl

end RecordCheck.Pattern
