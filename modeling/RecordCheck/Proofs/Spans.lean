import Mathlib
import RecordCheck.Pattern.Matcher

/-!
# What patterns match

The meaning of a pattern without regard to the search for it: which characters it matches between
those before a place and those after it. A pattern is plain when it neither looks around, nor refers
to what it has remembered, nor keeps to the first way of matching a part.

## Main definitions

* `Span`: what can be matched at a place, with what follows.
* `Node.Spans`, `SpansAll`: the meaning of a part and of a sequence.
* `Node.isPlain`: the parts that have such a meaning.

## Main statements

* `least_le_of_spans`: what a sequence matches is as long as its width says.
-/
set_option autoImplicit false

namespace RecordCheck.Pattern

/-- The place in a text after some characters, last first, and before others. -/
def Place.between (before after : List Char) : Place :=
  ⟨before.length + after.length, before.length, before, after⟩

/-- A condition on places, given by the characters before a place, last first, and those after it.
-/
abbrev Goal := List Char → List Char → Prop

/-- A relation of the characters before a place, last first, those that are matched there, and those
that follow. -/
abbrev Span := List Char → List Char → List Char → Prop

namespace Span

def nothing : Span := fun _ taken _ => taken = []

/-- One character that passes a test. -/
def one (test : Nat → Bool) : Span := fun _ taken _ => ∃ c, taken = [c] ∧ test c.toNat = true

/-- One match after another. -/
def andThen (R S : Span) : Span := fun before taken after =>
  ∃ first second, taken = first ++ second ∧ R before first (second ++ after) ∧
    S (first.reverse ++ before) second after

/-- A number of matches, one after another. -/
def rounds (R : Span) : Nat → Span
  | 0 => nothing
  | n + 1 => R.andThen (R.rounds n)

/-- A number of matches between two bounds. -/
def times (R : Span) (least : Nat) (most : Option Nat) : Span := fun before taken after =>
  ∃ n, least ≤ n ∧ (∀ limit ∈ most, n ≤ limit) ∧ R.rounds n before taken after

/-- Some match from a place ends at a place that meets a condition. -/
def LeadsTo (R : Span) (goal : Goal) : Goal := fun before after =>
  ∃ taken rest, after = taken ++ rest ∧ R before taken rest ∧ goal (taken.reverse ++ before) rest

section

variable {R S : Span} {goal : Goal} {test : Nat → Bool} {before taken after : List Char} {n k : Nat}

theorem leadsTo_nothing : nothing.LeadsTo goal before after ↔ goal before after := by
  simp [LeadsTo, nothing]

theorem leadsTo_one : (one test).LeadsTo goal before after ↔
    ∃ c rest, after = c :: rest ∧ test c.toNat = true ∧ goal (c :: before) rest := by
  constructor
  · rintro ⟨_, rest, rfl, ⟨c, rfl, passed⟩, reached⟩
    exact ⟨c, rest, rfl, passed, reached⟩
  · rintro ⟨c, rest, rfl, passed, reached⟩
    exact ⟨[c], rest, rfl, ⟨c, rfl, passed⟩, reached⟩

theorem leadsTo_andThen :
    (R.andThen S).LeadsTo goal before after ↔ R.LeadsTo (S.LeadsTo goal) before after := by
  constructor
  · rintro ⟨_, rest, rfl, ⟨first, second, rfl, one, two⟩, reached⟩
    exact ⟨first, second ++ rest, by simp, one, second, rest, rfl, two, by simpa using reached⟩
  · rintro ⟨first, _, rfl, one, second, rest, rfl, two, reached⟩
    exact ⟨first ++ second, rest, by simp, ⟨first, second, rfl, one, two⟩, by simpa using reached⟩

theorem leadsTo_rounds_add : (R.rounds (n + k)).LeadsTo goal before after ↔
    (R.rounds n).LeadsTo ((R.rounds k).LeadsTo goal) before after := by
  induction n generalizing before after with
  | zero => rw [Nat.zero_add, rounds, leadsTo_nothing]
  | succ n ih =>
    rw [Nat.succ_add, rounds, leadsTo_andThen, rounds, leadsTo_andThen]
    simp only [LeadsTo] at ih ⊢
    simp only [ih]

theorem andThen_nothing : R.andThen nothing before taken after ↔ R before taken after := by
  simp [andThen, nothing]

theorem rounds_one : (one test).rounds n before taken after ↔
    taken.length = n ∧ ∀ c ∈ taken, test c.toNat = true := by
  induction n generalizing before taken with
  | zero =>
    rw [rounds, nothing, List.length_eq_zero_iff, iff_self_and]
    rintro rfl
    simp
  | succ n ih =>
    simp only [rounds, andThen, ih]
    constructor
    · rintro ⟨_, second, rfl, ⟨c, rfl, passed⟩, rfl, others⟩
      simpa [passed] using others
    · rintro ⟨length, all⟩
      obtain ⟨c, second, rfl⟩ := List.exists_cons_of_length_eq_add_one length
      exact ⟨[c], second, rfl, ⟨c, rfl, all c (.head _)⟩, by simpa using length,
        fun d member => all d (.tail _ member)⟩

theorem leadsTo_times {least : Nat} {most : Option Nat} :
    (R.times least most).LeadsTo goal before after ↔ ∃ n, least ≤ n ∧ (∀ limit ∈ most, n ≤ limit) ∧
      (R.rounds n).LeadsTo goal before after := by
  constructor
  · rintro ⟨taken, rest, rfl, ⟨n, enough, few, many⟩, reached⟩
    exact ⟨n, enough, few, taken, rest, rfl, many, reached⟩
  · rintro ⟨n, enough, few, taken, rest, rfl, many, reached⟩
    exact ⟨taken, rest, rfl, ⟨n, enough, few, many⟩, reached⟩

/-- Matches that must be made come before those that may be made. -/
theorem leadsTo_times_least {least : Nat} {most : Option Nat}
    (fit : ∀ limit ∈ most, least ≤ limit) : (R.times least most).LeadsTo goal before after ↔
      (R.rounds least).LeadsTo ((R.times 0 (most.map (· - least))).LeadsTo goal) before after := by
  rw [leadsTo_times]
  constructor
  · rintro ⟨n, enough, few, many⟩
    obtain ⟨k, rfl⟩ := Nat.exists_eq_add_of_le enough
    obtain ⟨taken, rest, rfl, required, others⟩ := leadsTo_rounds_add.1 many
    refine ⟨taken, rest, rfl, required, leadsTo_times.2 ⟨k, Nat.zero_le k, ?_, others⟩⟩
    simp only [Option.mem_map]
    rintro _ ⟨limit, given, rfl⟩
    exact Nat.le_sub_of_add_le' (few limit given)
  · rintro ⟨taken, rest, rfl, required, others⟩
    obtain ⟨k, -, few, others⟩ := leadsTo_times.1 others
    refine ⟨least + k, Nat.le_add_right _ _, fun limit given => ?_,
      leadsTo_rounds_add.2 ⟨taken, rest, rfl, required, others⟩⟩
    have left := few _ (Option.mem_map_of_mem _ given)
    have := fit limit given
    omega

/-- Where nothing must be matched, either nothing is or there is a first match. -/
theorem leadsTo_times_zero {most : Option Nat} : (R.times 0 most).LeadsTo goal before after ↔
    goal before after ∨
      most ≠ some 0 ∧ R.LeadsTo ((R.times 0 (most.map (· - 1))).LeadsTo goal) before after := by
  constructor
  · intro leads
    obtain ⟨n, -, few, many⟩ := leadsTo_times.1 leads
    cases n with
    | zero => exact .inl (leadsTo_nothing.1 many)
    | succ n =>
      have fit : ∀ limit ∈ most, 1 ≤ limit := fun limit given =>
        (Nat.le_add_left 1 n).trans (few limit given)
      refine .inr ⟨?_, ?_⟩
      · rintro rfl
        exact absurd (fit 0 rfl) (by decide)
      · obtain ⟨taken, rest, rfl, one, others⟩ := leadsTo_andThen.1 many
        refine ⟨taken, rest, rfl, one, leadsTo_times.2 ⟨n, Nat.zero_le n, ?_, others⟩⟩
        simp only [Option.mem_map]
        rintro _ ⟨limit, given, rfl⟩
        exact Nat.le_sub_of_add_le (few limit given)
  · rintro (reached | ⟨more, taken, rest, rfl, one, others⟩)
    · exact leadsTo_times.2 ⟨0, Nat.le_refl 0, fun _ _ => Nat.zero_le _, leadsTo_nothing.2 reached⟩
    · obtain ⟨n, -, few, many⟩ := leadsTo_times.1 others
      refine leadsTo_times.2 ⟨n + 1, Nat.zero_le _, fun limit given => ?_,
        leadsTo_andThen.2 ⟨taken, rest, rfl, one, many⟩⟩
      have left := few _ (Option.mem_map_of_mem _ given)
      have : limit ≠ 0 := fun zero => more (zero ▸ given)
      omega

/-- Either nothing is matched or there is a first match that is not empty. -/
theorem leadsTo_times_progress {most : Option Nat}
    (leads : (R.times 0 most).LeadsTo goal before after) : goal before after ∨
      most ≠ some 0 ∧ ∃ taken rest, taken ≠ [] ∧ after = taken ++ rest ∧ R before taken rest ∧
        (R.times 0 (most.map (· - 1))).LeadsTo goal (taken.reverse ++ before) rest := by
  obtain ⟨n, -, few, many⟩ := leadsTo_times.1 leads
  induction n with
  | zero => exact .inl (leadsTo_nothing.1 many)
  | succ n ih =>
    obtain ⟨taken, rest, rfl, one, others⟩ := leadsTo_andThen.1 many
    cases taken with
    | nil => exact ih (fun limit given => Nat.le_of_succ_le (few limit given)) others
    | cons c taken =>
      refine .inr ⟨?_, _, rest, List.cons_ne_nil c taken, rfl, one,
        leadsTo_times.2 ⟨n, Nat.zero_le n, ?_, others⟩⟩
      · rintro rfl
        exact absurd (few 0 rfl) (Nat.not_succ_le_zero n)
      · simp only [Option.mem_map]
        rintro _ ⟨limit, given, rfl⟩
        exact Nat.le_sub_of_add_le (few limit given)

theorem leadsTo_times_one {least : Nat} {most : Option Nat} :
    ((one test).times least most).LeadsTo goal before after ↔
      ∃ taken rest, after = taken ++ rest ∧ least ≤ taken.length ∧
        (∀ limit ∈ most, taken.length ≤ limit) ∧ (∀ c ∈ taken, test c.toNat = true) ∧
        goal (taken.reverse ++ before) rest := by
  simp [LeadsTo, times, rounds_one, and_assoc]

theorem mul_le_of_rounds {least : Nat}
    (each : ∀ before taken after, R before taken after → least ≤ taken.length)
    (many : R.rounds n before taken after) : least * n ≤ taken.length := by
  induction n generalizing before taken with
  | zero => exact Nat.zero_le _
  | succ n ih =>
    obtain ⟨first, second, rfl, one, others⟩ := many
    rw [List.length_append, Nat.mul_succ, Nat.add_comm]
    exact Nat.add_le_add (each _ _ _ one) (ih others)

end

end Span

/-! ## Meaning of patterns -/

mutual

/-- What a part matches under given flags. Parts that are not plain match nothing here. -/
def Node.Spans (flags : PatternFlags) : Node → Span
  | .char negated code => .one (Single.ofChar flags negated code).accepts
  | .any => .one (Single.any flags.dotAll).accepts
  | .set negated items => .one (Single.ofSet flags negated items).accepts
  | .anchor place => fun before taken after =>
    taken = [] ∧ place.holds flags.multiline (allScripts flags) (.between before after) = true
  | .group _ on off body => SpansAll ((flags.union on).without off) body
  | .choice ways => SpansSome flags ways
  | .repeat least most _ body => (SpansAll flags body).times least most
  | .look .. | .atomic _ | .backref _ | .cond .. => fun _ _ _ => False

/-- What a sequence matches. -/
def SpansAll (flags : PatternFlags) : List Node → Span
  | [] => .nothing
  | node :: rest => (node.Spans flags).andThen (SpansAll flags rest)

/-- What one of several sequences matches. -/
def SpansSome (flags : PatternFlags) : List (List Node) → Span
  | [] => fun _ _ _ => False
  | way :: rest => fun before taken after =>
    SpansAll flags way before taken after ∨ SpansSome flags rest before taken after

end

mutual

/-- Whether a part is plain. -/
def Node.isPlain : Node → Bool
  | .char .. | .any | .set .. | .anchor _ => true
  | .group _ _ _ body => arePlain body
  | .choice ways => waysPlain ways
  | .repeat least most greed body =>
    greed != .possessive && most.all (fun limit => least ≤ limit) && arePlain body
  | .look .. | .atomic _ | .backref _ | .cond .. => false

def arePlain : List Node → Bool
  | [] => true
  | node :: rest => node.isPlain && arePlain rest

def waysPlain : List (List Node) → Bool
  | [] => true
  | way :: rest => arePlain way && waysPlain rest

end

/-! ## Sequences -/

section

variable {flags : PatternFlags} {parts more : List Node} {before taken after : List Char}

theorem spansAll_single {node : Node} :
    SpansAll flags [node] before taken after ↔ node.Spans flags before taken after := by
  simp only [SpansAll, Span.andThen_nothing]

theorem spansAll_append : SpansAll flags (parts ++ more) before taken after ↔
    (SpansAll flags parts).andThen (SpansAll flags more) before taken after := by
  induction parts generalizing before taken with
  | nil => simp [SpansAll, Span.andThen, Span.nothing]
  | cons node parts ih =>
    simp only [List.cons_append, SpansAll, Span.andThen, ih]
    constructor
    · rintro ⟨first, _, rfl, one, second, third, rfl, two, three⟩
      exact ⟨first ++ second, third, by simp, ⟨first, second, rfl, by simpa using one, two⟩,
        by simpa using three⟩
    · rintro ⟨_, third, rfl, ⟨first, second, rfl, one, two⟩, three⟩
      exact ⟨first, second ++ third, by simp, by simpa using one, second, third, rfl, two,
        by simpa using three⟩

end

mutual

/-- A part that is tested as one character matches the characters that pass the test. -/
theorem Node.spans_of_single {flags : PatternFlags} {test : Single}
    {before taken after : List Char} : (node : Node) → node.single? flags = some test →
    (node.Spans flags before taken after ↔ Span.one test.accepts before taken after)
  | .char .., same | .any, same | .set .., same => by
    obtain rfl := Option.some.inj same
    rfl
  | .group none _ _ body, same => spans_of_onlySingle body same
  | .group (some _) .., same | .anchor _, same | .choice _, same | .repeat .., same
  | .look .., same | .atomic _, same | .backref _, same | .cond .., same => nomatch same

theorem spans_of_onlySingle {flags : PatternFlags} {test : Single}
    {before taken after : List Char} : (parts : List Node) → onlySingle? flags parts = some test →
    (SpansAll flags parts before taken after ↔ Span.one test.accepts before taken after)
  | [node], same => spansAll_single.trans (node.spans_of_single same)
  | [], same | _ :: _ :: _, same => nomatch same

end

/-! ## Widths -/

mutual

theorem Node.least_le {flags : PatternFlags} (groups : List (Nat × Width))
    {before taken after : List Char} : (node : Node) → node.Spans flags before taken after →
    (node.width groups).least ≤ taken.length
  | .char .., spans | .any, spans | .set .., spans => by
    obtain ⟨c, rfl, -⟩ := spans
    exact Nat.le_refl _
  | .anchor _, _ => Nat.zero_le _
  | .group _ _ _ body, spans => least_le_of_spans groups body spans
  | .choice ways, spans => least_le_of_some groups ways spans
  | .repeat least _ _ body, spans => by
    obtain ⟨n, enough, -, many⟩ := spans
    have each := Span.mul_le_of_rounds (fun _ _ _ => least_le_of_spans groups body) many
    exact (Nat.mul_le_mul_left _ enough).trans each
  | .look .., spans | .atomic _, spans | .backref _, spans | .cond .., spans => spans.elim

theorem least_le_of_spans {flags : PatternFlags} (groups : List (Nat × Width))
    {before taken after : List Char} : (parts : List Node) →
    SpansAll flags parts before taken after → (widthOfAll groups parts).least ≤ taken.length
  | [], _ => Nat.zero_le _
  | node :: rest, ⟨_, _, together, one, others⟩ => by
    rw [together, List.length_append]
    exact Nat.add_le_add (node.least_le groups one) (least_le_of_spans groups rest others)

theorem least_le_of_some {flags : PatternFlags} (groups : List (Nat × Width))
    {before taken after : List Char} : (ways : List (List Node)) →
    SpansSome flags ways before taken after → (widthOfWays groups ways).least ≤ taken.length
  | [way], .inl spans => least_le_of_spans groups way spans
  | way :: _ :: _, .inl spans => (Nat.min_le_left _ _).trans (least_le_of_spans groups way spans)
  | _ :: way :: rest, .inr spans =>
    (Nat.min_le_right _ _).trans (least_le_of_some groups (way :: rest) spans)

end

end RecordCheck.Pattern
