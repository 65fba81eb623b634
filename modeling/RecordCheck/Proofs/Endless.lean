import Mathlib.Algebra.Order.BigOperators.Group.List
import Mathlib.Algebra.Order.Group.Nat
import RecordCheck.Proofs.Lasting
import RecordCheck.Proofs.Positions
import RecordCheck.Proofs.Registry

/-!
# Descriptions without an end

The rules of an alias may mention other aliases. When no alias is mentioned by rules of its own,
directly or on the way through others, reading ends: going from an alias to one that its rules
mention goes down in rank, and between two such steps descriptions only get lighter. When an alias
leads back to itself there is no set of rules for any description that uses it.

## Main definitions

* `HasEnd`: what goes wrong is something else than having no end.
* `Registry.Meets`: the calls that are met as aliases are replaced by their rules.

## Main statements

* `Registry.parseWithin_ends`: reading ends where aliases have ranks.
* `Registry.Readable.leads`: what has been read leads to no alias that is still being read.
* `Registry.ends_of_ranked_not_of_cyclic`: both for whole descriptions.
-/
set_option autoImplicit false

namespace RecordCheck

open Act

/-! ## What is met -/

namespace Registry

/-- The second description is what an alias stands for that is called in the first. -/
def Unfolds (g : Registry) (d rules : Value) : Prop :=
  ∃ call override, .ok call ∈ Description.calls d ∧
    g.find? call.name = some (.standsFor rules override)

/-- A call is met in a description or in what the aliases in it stand for. -/
def Meets (g : Registry) (d : Value) (call : Call) : Prop :=
  ∃ inner, Relation.ReflTransGen (fun a b => g.Encloses a b ∨ g.Unfolds a b) d inner ∧
    .ok call ∈ Description.calls inner

/-- A pattern is met that is nested too deep to be read. -/
def MeetsTooDeep (g : Registry) (d : Value) : Prop :=
  ∃ call, g.Meets d call ∧ g.find? call.name = some (.builtin .like) ∧
    ∃ pattern ∈ call.arguments, ∃ flags, Pattern.ofValue pattern flags = .error .endless

theorem MeetsTooDeep.further {g : Registry} {d inner : Value}
    (step : g.Encloses d inner ∨ g.Unfolds d inner) (h : g.MeetsTooDeep inner) :
    g.MeetsTooDeep d := by
  obtain ⟨call, ⟨last, way, member⟩, deep⟩ := h
  exact ⟨call, ⟨last, .head step way, member⟩, deep⟩

end Registry

/-! ## Built-in rules end -/

/-- What goes wrong, if anything does, has an end. -/
def HasEnd {α : Type} (r : Except Error α) : Prop := ∀ e, r = .error e → e ≠ .endless

namespace HasEnd

variable {α β : Type}

theorem ok (x : α) : HasEnd (.ok x) := by
  intro e failed
  cases failed

theorem error {e : Error} (other : e ≠ .endless) : HasEnd (.error e : Except Error α) := by
  rintro _ ⟨⟩
  exact other

theorem bind {first : Except Error α} {next : α → Except Error β} (h : HasEnd first)
    (h' : ∀ x, HasEnd (next x)) : HasEnd (first >>= next) :=
  forall_error_bind h h'

theorem map {first : Except Error α} (h : HasEnd first) (f : α → β) : HasEnd (first.map f) :=
  forall_error_map h f

end HasEnd

theorem Error.quotedOf_hasEnd (v : Value) : HasEnd (quotedOf v) := by
  unfold quotedOf
  split
  · exact .ok _
  · exact .error (by simp [badValue, endless])

theorem Comparison.limit_hasEnd (rule : String) (v : Value) : HasEnd (limit rule v) := by
  unfold limit
  split
  · exact .ok _
  · exact .bind (Error.quotedOf_hasEnd v) fun _ => .error (by simp [Error.endless])

theorem Length.wholeOf_hasEnd (v : Value) : HasEnd (wholeOf v) := by
  rintro _ failed rfl
  unfold wholeOf at failed
  split at failed <;> (try split at failed) <;> (try split at failed) <;> cases failed

/-- There is an end to an action whatever goes wrong. -/
abbrev Act.Ends {α : Type} (a : Act α) : Prop := Ensures a (fun _ => True) (· ≠ .endless)

theorem Act.Ends.lift {α : Type} {r : Except Error α} (h : HasEnd r) : Act.Ends (liftM r : Act α) :=
  Ensures.lift (fun _ _ => trivial) h

theorem Value.walk_ends (v : Value) : Act.Ends v.walk := by
  cases v with
  | stream serial entries => exact fun _ => trivial
  | _ =>
    unfold walk
    dsimp only
    split
    · exact .pure trivial
    · exact .throw (by simp [Error.wrongType, Error.endless])

/-- There is an end to a pattern unless it is nested too deep. -/
theorem Match.like_ends (pattern flags : Value) : Ensures (like pattern flags) (fun _ => True)
    fun e => e = .endless → ∃ letters, Pattern.ofValue pattern letters = .error .endless := by
  have left : Act.Ends (flagsLeft flags) := by
    cases flags with
    | stream serial entries =>
      exact .map ((Value.walk_ends _).mono (fun _ _ => trivial) fun _ h => h)
    | _ => exact .pure trivial
  rw [like_eq]
  refine (left.mono (fun _ h => h) fun e other same => absurd same other).bind fun v _ => ?_
  refine Ensures.bind (P := fun _ => True) (.lift (fun _ _ => trivial) fun e failed same =>
    absurd same (PatternFlags.ofValue_failed failed)) fun letters _ => ?_
  refine Ensures.bind (P := fun _ => True) (.lift (fun _ _ => trivial) fun e failed same =>
    ⟨letters, same ▸ failed⟩) fun p _ => ?_
  exact .pure trivial

namespace Builtin

theorem mappingFor_hasEnd (rule : String) (v : Value) : HasEnd (mappingFor rule v) := by
  unfold mappingFor
  split
  · exact .ok _
  · exact .error (by simp [Error.endless])

/-- There is an end to making any rule but one for a pattern. -/
theorem make_ends {b : Builtin} (noLike : b ≠ like) (args : List Value) :
    Act.Ends (b.make args) := by
  have made {α : Type} {r : Except Error α} {f : α → Rule} (h : HasEnd r) :
      Act.Ends (do return f (← r)) := Ensures.bind (Act.Ends.lift h) fun _ _ => .pure trivial
  have limit := Comparison.limit_hasEnd
  have whole := Length.wholeOf_hasEnd
  unfold make
  split
  case h_4 => exact .map (Ensures.bind (Value.walk_ends _) fun _ _ => .pure trivial)
  case h_6 | h_7 | h_8 | h_9 | h_10 | h_11 => exact made ((whole _).map _)
  case h_12 | h_13 => exact made (.bind (whole _) fun _ => .bind (whole _) fun _ => .ok _)
  case h_14 | h_15 => contradiction
  case h_20 | h_21 => exact made ((limit _ _).map _)
  case h_22 => exact made (.bind (limit _ _) fun _ => .bind (limit _ _) fun _ => .ok _)
  case h_30 | h_32 | h_33 => exact made (mappingFor_hasEnd _ _)
  case h_34 => exact .throw (by simp [Error.wrongType, Error.endless])
  all_goals exact .pure trivial

/-- There is an end to making a rule for a pattern unless the pattern is nested too deep. -/
theorem make_like_ends (args : List Value) : Ensures (like.make args) (fun _ => True)
    fun e => e = .endless →
      ∃ pattern ∈ args, ∃ letters, Pattern.ofValue pattern letters = .error .endless := by
  have read (pattern flags : Value) (given : pattern ∈ args) :
      Ensures (Rule.pattern <$> Match.like pattern flags) (fun _ => True) fun e =>
        e = .endless →
          ∃ pattern ∈ args, ∃ letters, Pattern.ofValue pattern letters = .error .endless :=
    .map ((Match.like_ends pattern flags).mono (fun _ _ => trivial) fun _ h same =>
      ⟨pattern, given, h same⟩)
  unfold make
  split
  case h_14 | h_15 => exact read _ _ (by simp)
  case h_34 => exact .throw (by simp [Error.wrongType, Error.endless])
  all_goals contradiction

end Builtin

/-! ## What stands in the place of calls and descriptions -/

namespace Description

theorem entryCall_hasEnd (entry : Value × Value) : HasEnd (entryCall entry) := by
  obtain ⟨key, argument⟩ := entry
  cases key with
  | str name => exact .ok _
  | _ => exact .bind (Error.quotedOf_hasEnd _) fun _ => .error (by simp [Error.endless])

mutual

/-- There is an end to what stands in a description in place of calls. -/
theorem calls_hasEnd : (d : Value) → ∀ call ∈ calls d, HasEnd call
  | .null, _, h => by simp [calls] at h
  | .str name, _, h => by
    rw [calls_name] at h
    rw [List.mem_singleton.1 h]
    exact .ok _
  | .dict entries, _, h => by
    rw [calls] at h
    split at h
    · obtain ⟨entry, -, rfl⟩ := List.mem_map.1 h
      exact entryCall_hasEnd entry
    · exact valueCalls_hasEnd entries _ h
  | .items .list entries, _, h | .items .tuple entries, _, h => by
    rw [calls] at h
    exact listCalls_hasEnd entries _ h
  | .items .set _, _, h | .items .frozenset _, _, h | .stream .., _, h | .bool _, _, h
  | .int _, _, h | .float _, _, h | .brokenStr _, _, h | .bytes _, _, h | .bytearray _, _, h
  | .object _, _, h | .other .., _, h => by
    simp only [calls, List.mem_singleton] at h
    rw [h]
    exact .error (by simp [Error.endless])

theorem listCalls_hasEnd : (ds : List Value) → ∀ call ∈ listCalls ds, HasEnd call
  | [], _, h => by simp [listCalls] at h
  | d :: ds, _, h => by
    rw [listCalls] at h
    exact (List.mem_append.1 h).elim (calls_hasEnd d _) (listCalls_hasEnd ds _)

theorem valueCalls_hasEnd :
    (entries : List (Value × Value)) → ∀ call ∈ valueCalls entries, HasEnd call
  | [], _, h => by simp [valueCalls] at h
  | (_, d) :: entries, _, h => by
    rw [valueCalls] at h
    exact (List.mem_append.1 h).elim (calls_hasEnd d _) (valueCalls_hasEnd entries _)

end

theorem ofRuleset_hasEnd (ruleset : Value) : ∀ part ∈ ofRuleset ruleset, HasEnd part := by
  intro part h
  unfold ofRuleset at h
  split at h
  · simp at h
  · obtain ⟨entry, -, rfl⟩ := List.mem_map.1 h
    exact .ok _
  · rw [List.mem_singleton.1 h]
    exact .error (by simp [Error.endless])

end Description

namespace Registry

variable {g : Registry}

theorem inside?_hasEnd {call : Call} {parts : List (Except Error Value)}
    (inside : g.inside? call = some parts) : ∀ part ∈ parts, HasEnd part := by
  intro part h
  unfold inside? at inside
  split at inside
  · cases inside
    rw [List.mem_singleton.1 h]
    exact .ok _
  · cases inside
    exact Description.ofRuleset_hasEnd _ _ h
  · cases inside
    exact Description.ofRuleset_hasEnd _ _ h
  · cases inside
    obtain ⟨case, -, h⟩ := List.mem_flatMap.1 h
    exact Description.ofRuleset_hasEnd _ _ h
  · cases inside

/-! ## Ranks go down -/

section Within

variable {pending : List String} {d : Value} {call : Call}
  {deeper : (name : String) → (g.find? name).isSome → ¬ pending.contains name → Reading}

/-- A built-in rule without descriptions inside is made at once. -/
theorem ruleWithin_plain_ends (member : .ok call ∈ Description.calls d) {b : Builtin}
    (found : g.find? call.name = some (.builtin b)) (plain : g.inside? call = none) :
    Ensures (ruleWithin g pending deeper call) (fun _ => True)
      fun e => e = .endless → g.MeetsTooDeep d := by
  have made : Ensures (b.make call.arguments) (fun rule => rule.isDraft = false)
      fun e => e = .endless → g.MeetsTooDeep d := by
    refine .intro (fun _ _ => (make_plain found plain).of_ok) fun _ e failed endless => ?_
    by_cases isLike : b = .like
    · subst isLike
      have deep := (Builtin.make_like_ends _).of_error failed endless
      exact ⟨call, ⟨d, .refl, member⟩, found, deep⟩
    · exact absurd endless ((Builtin.make_ends isLike _).of_error failed)
  rw [ruleWithin_eq, makeWithin_builtin found]
  refine made.bind fun rule finished => ?_
  rw [completeWithin_finished call finished]
  exact .pure trivial

/-- Descriptions in a row end when each of them does. -/
theorem parts_end {parts : List (Except Error Value)} (stated : ∀ part ∈ parts, HasEnd part)
    (each : ∀ inner, .ok inner ∈ parts → Ensures (parseWithin g pending deeper inner)
      (fun _ => True) fun e => e = .endless → g.MeetsTooDeep inner) :
    Ensures (parts.mapM (readWithin g pending deeper)) (fun _ => True)
      fun e => e = .endless → ∃ inner, .ok inner ∈ parts ∧ g.MeetsTooDeep inner := by
  refine (Ensures.mapM (S := fun _ _ => True) fun part h => ?_).mono (fun _ _ => trivial)
    fun _ h => h
  cases part with
  | error e => exact .throw fun endless => absurd endless (stated _ h e rfl)
  | ok inner => exact (each inner h).mono (fun _ h => h) fun e deep same => ⟨inner, h, deep same⟩

/-- A call with descriptions inside ends when these do. -/
theorem ruleWithin_inside_ends (member : .ok call ∈ Description.calls d)
    {parts : List (Except Error Value)} (inside : g.inside? call = some parts)
    (each : ∀ inner, .ok inner ∈ parts → Ensures (parseWithin g pending deeper inner)
      (fun _ => True) fun e => e = .endless → g.MeetsTooDeep inner) :
    Ensures (ruleWithin g pending deeper call) (fun _ => True)
      fun e => e = .endless → g.MeetsTooDeep d := by
  refine .intro (fun _ _ _ => trivial) fun _ _ failed endless => ?_
  obtain ⟨inner, part, deep⟩ := (parts_end (inside?_hasEnd inside) each).of_error
    ((ruleWithin_inStep inside).error_iff.1 failed) endless
  exact deep.further (.inl ⟨call, parts, member, inside, part⟩)

end Within

section Ranked

variable (standard : ∀ name make, g.find? name ≠ some (.custom make)) {rank : String → Nat}
  (ranked : ∀ name other, g.Leads name other → rank other < rank name)
include standard ranked

/-- Reading ends where aliases have ranks that go down along their rules. The names that are pending
rank higher than those that are mentioned, so none of them comes up again. -/
theorem parseWithin_ends (bound : Nat) (pending : List String) (d : Value)
    (below : ∀ name, g.Mentions d name → g.IsAlias name → rank name < bound)
    (above : ∀ name ∈ pending, bound ≤ rank name) :
    Ensures (parseWithin g pending (g.deeper pending) d) (fun _ => True)
      fun e => e = .endless → g.MeetsTooDeep d := by
  rw [parseWithin_eq]
  refine Ensures.bind (Ensures.mapM (S := fun _ _ => True) fun entry member => ?_)
    fun _ _ => .pure trivial
  rcases entry with e | call
  · exact .throw fun endless => absurd endless (Description.calls_hasEnd d _ member e rfl)
  change Ensures (ruleWithin g pending (g.deeper pending) call) _ _
  cases found : g.find? call.name with
  | none =>
    rw [ruleWithin_unknown found]
    exact .throw fun endless => by cases endless
  | some definition =>
    cases definition with
    | custom make => exact absurd found (standard _ make)
    | builtin b =>
      cases inside : g.inside? call with
      | none => exact ruleWithin_plain_ends member found inside
      | some parts =>
        -- The bound stays, and the descriptions inside are lighter.
        refine ruleWithin_inside_ends member inside fun inner h => ?_
        have lighter := weight_of_mem_inside? inside h
        have := Description.argument_weight_lt d member
        refine parseWithin_ends bound pending inner (fun name mentioned => ?_) above
        exact below name (.inside ⟨call, parts, member, inside, h⟩ mentioned)
    | standsFor rules override =>
      have lower : rank call.name < bound := below _ (.here member) ⟨rules, override, found⟩
      have fresh : call.name ∉ pending := fun old => by
        have := above _ old
        omega
      rw [ruleWithin_eq]
      by_cases bare : call.arguments = []
      · -- The rank of the alias is the bound for its rules, which may weigh more.
        have rules_end := parseWithin_ends (rank call.name) (call.name :: pending) rules
          (fun name mentioned isAlias =>
            ranked _ _ ⟨rules, override, found, mentioned, isAlias⟩)
          (fun name h => by
            rcases List.mem_cons.1 h with rfl | h
            · exact Nat.le_refl _
            · have := above name h
              omega)
        rw [makeWithin_standsFor found bare fresh, bind_assoc]
        refine (rules_end.mono (fun _ h => h) fun e deep endless =>
          (deep endless).further (.inr ⟨call, override, member, found⟩)).bind fun s _ => ?_
        exact .pure trivial
      · rw [makeWithin_arguments found bare]
        exact Ensures.bind (P := fun _ => False) (.throw (by simp [Error.wrongType, Error.endless]))
          fun _ h => h.elim
termination_by (bound, d.weight)

theorem parse_ends (d : Value) :
    Ensures (g.parse d) (fun _ => True) fun e => e = .endless → g.MeetsTooDeep d := by
  refine parseWithin_ends standard ranked ((g.definitions.map fun entry => rank entry.1).sum + 1)
    [] d (fun name _ isAlias => ?_) (by simp)
  obtain ⟨rules, override, found⟩ := isAlias
  have known := List.mem_map_of_mem (f := fun entry => rank entry.1) (Keyed.mem_of_lookup found)
  exact Nat.lt_succ_of_le (List.le_sum_of_mem known)

theorem build_ends (declared : List (Value × RuleSet)) (ruleset : Value) :
    Ensures (g.build declared ruleset) (fun _ => True) fun e => e = .endless →
      ∃ d, .ok d ∈ Description.ofRuleset ruleset ∧ g.MeetsTooDeep d := by
  refine Ensures.bind (P := fun _ => True) ?_ fun _ _ => .pure trivial
  refine .intro (fun _ _ _ => trivial) fun _ _ failed => ?_
  exact (parts_end (Description.ofRuleset_hasEnd ruleset) fun d _ =>
    parse_ends standard ranked d).of_error ((buildWithin_inStep ruleset).error_iff.1 failed)

theorem switch_ends (declared : List (Value × RuleSet)) (field rulesets : Value) :
    Ensures (g.switch declared field rulesets) (fun _ => True) fun e => e = .endless →
      ∃ entries key ruleset d, rulesets = .dict entries ∧ (key, ruleset) ∈ entries ∧
        .ok d ∈ Description.ofRuleset ruleset ∧ g.MeetsTooDeep d := by
  unfold switch
  split
  · next entries =>
    refine Ensures.bind (Ensures.mapM (S := fun _ _ => True) fun entry member => ?_)
      fun _ _ => .pure trivial
    refine ((build_ends standard ranked declared entry.2).mono (fun _ h => h)
      fun e deep endless => ?_).bind fun _ _ => .pure trivial
    obtain ⟨d, h, met⟩ := deep endless
    exact ⟨entries, entry.1, entry.2, d, rfl, member, h, met⟩
  · refine .throw fun endless => ?_
    unfold Error.ofMissingMethod at endless
    split at endless <;> cases endless

end Ranked

/-! ## Nothing that is read leads back -/

/-- While names are pending, a description is read from some ledger. -/
def Readable (g : Registry) (pending : List String) (d : Value) : Prop :=
  ∃ ledger s, outcome (parseWithin g pending (g.deeper pending) d) ledger = .ok s

namespace Readable

variable {pending : List String} {d inner rules override : Value} {call : Call}
  {name other : String}

/-- Every call of a description that is read is read. -/
theorem rule (h : g.Readable pending d) (member : .ok call ∈ Description.calls d) :
    ∃ ledger rule, outcome (ruleWithin g pending (g.deeper pending) call) ledger = .ok rule := by
  obtain ⟨ledger, s, read⟩ := h
  rw [parseWithin_eq] at read
  obtain ⟨rules, all, -⟩ := outcome_bind_ok.1 read
  exact exists_of_mapM_ok all member

/-- The descriptions inside a description that is read are read. -/
theorem inside (h : g.Readable pending d) (step : g.Encloses d inner) :
    g.Readable pending inner := by
  obtain ⟨call, parts, member, inside, part⟩ := step
  obtain ⟨ledger, rule, read⟩ := h.rule member
  obtain ⟨sets, all⟩ := (ruleWithin_inStep inside).ok_iff.1 ⟨rule, read⟩
  exact exists_of_mapM_ok all part

/-- An alias that is read is not pending, and its rules are read while it is. -/
theorem unfold (h : g.Readable pending d) (member : .ok call ∈ Description.calls d)
    (found : g.find? call.name = some (.standsFor rules override)) :
    call.name ∉ pending ∧ g.Readable (call.name :: pending) rules := by
  obtain ⟨ledger, rule, read⟩ := h.rule member
  rw [ruleWithin_eq] at read
  obtain ⟨made, read, -⟩ := outcome_bind_ok.1 read
  have bare : call.arguments = [] := by
    by_contra given
    rw [makeWithin_arguments found given] at read
    cases read
  have fresh : call.name ∉ pending := fun old => by
    rw [makeWithin_pending found bare old] at read
    cases read
  rw [makeWithin_standsFor found bare fresh] at read
  obtain ⟨s, read, -⟩ := outcome_bind_ok.1 read
  exact ⟨fresh, ledger, s, read⟩

theorem mentions (h : g.Readable pending d) (mentioned : g.Mentions d name)
    (found : g.find? name = some (.standsFor rules override)) :
    name ∉ pending ∧ g.Readable (name :: pending) rules := by
  obtain ⟨inner, call, way, member, rfl⟩ := mentioned
  have here : g.Readable pending inner := by
    clear member
    induction way with
    | refl => exact h
    | tail _ step ih => exact ih.inside step
  exact here.unfold member found

/-- What a description that is read leads to is read while more names are pending, and is none of
them. -/
theorem leads (h : g.Readable pending d) (mentioned : g.Mentions d name) (isAlias : g.IsAlias name)
    (way : Relation.ReflTransGen g.Leads name other) :
    ∃ more rules override, g.find? other = some (.standsFor rules override) ∧
      pending ⊆ more ∧ other ∉ more ∧ g.Readable (other :: more) rules := by
  induction way with
  | refl =>
    obtain ⟨rules, override, found⟩ := isAlias
    exact ⟨pending, rules, override, found, List.Subset.refl _, h.mentions mentioned found⟩
  | @tail middle last _ step ih =>
    obtain ⟨more, rules, override, found, kept, -, read⟩ := ih
    obtain ⟨_, _, same, mentioned, next, nextOverride, foundNext⟩ := step
    obtain ⟨rfl, rfl⟩ := Definition.standsFor.inj (Option.some.inj (found.symm.trans same))
    exact ⟨middle :: more, next, nextOverride, foundNext, List.subset_cons_of_subset _ kept,
      read.mentions mentioned foundNext⟩

/-- A description that is read leads to no alias that leads back to itself. -/
theorem not_cyclic (h : g.Readable pending d) (mentioned : g.Mentions d name)
    (isAlias : g.IsAlias name) (way : Relation.ReflTransGen g.Leads name other) :
    ¬ Relation.TransGen g.Leads other other := by
  intro cycle
  obtain ⟨more, rules, override, found, -, -, read⟩ := h.leads mentioned isAlias way
  obtain ⟨next, ⟨_, _, same, mentioned, isAlias⟩, back⟩ := Relation.TransGen.head'_iff.1 cycle
  obtain ⟨rfl, rfl⟩ := Definition.standsFor.inj (Option.some.inj (found.symm.trans same))
  obtain ⟨further, _, _, _, kept, fresh, -⟩ := read.leads mentioned isAlias back
  exact fresh (kept (List.mem_cons_self))

end Readable

/-- Where there are built-in rules and aliases only, and the aliases have ranks such that the rules
of an alias mention none but aliases of lower rank, reading a description or a ruleset ends with a
result or with an error, unless a pattern is nested too deep to be read. And whatever else there is,
no description that leads to an alias which leads back to itself has a result. -/
theorem ends_of_ranked_not_of_cyclic (g : Registry) :
    ((∀ name make, g.find? name ≠ some (.custom make)) → ∀ rank : String → Nat,
      (∀ name other, g.Leads name other → rank other < rank name) → ∀ ledger,
        (∀ d, outcome (g.parse d) ledger = .error .endless → g.MeetsTooDeep d) ∧
        (∀ declared ruleset, outcome (g.build declared ruleset) ledger = .error .endless →
          ∃ d, .ok d ∈ Description.ofRuleset ruleset ∧ g.MeetsTooDeep d) ∧
        ∀ declared field rulesets,
          outcome (g.switch declared field rulesets) ledger = .error .endless →
            ∃ entries key ruleset d, rulesets = .dict entries ∧ (key, ruleset) ∈ entries ∧
              .ok d ∈ Description.ofRuleset ruleset ∧ g.MeetsTooDeep d) ∧
    ∀ d first name, g.Mentions d first → Relation.ReflTransGen g.Leads first name →
      Relation.TransGen g.Leads name name →
        ∀ ledger s, outcome (g.parse d) ledger ≠ .ok s := by
  constructor
  · intro standard rank ranked ledger
    exact ⟨fun d failed => (parse_ends standard ranked d).of_error failed rfl,
      fun declared ruleset failed =>
        (build_ends standard ranked declared ruleset).of_error failed rfl,
      fun declared field rulesets failed =>
        (switch_ends standard ranked declared field rulesets).of_error failed rfl⟩
  · intro d first name mentioned way cycle ledger s read
    have isAlias : g.IsAlias first := by
      obtain ⟨_, ⟨rules, override, found, -⟩, -⟩ :=
        Relation.TransGen.head'_iff.1 (cycle.trans_right way)
      exact ⟨rules, override, found⟩
    have readable : g.Readable [] d := ⟨ledger, s, read⟩
    exact readable.not_cyclic mentioned isAlias way cycle

/-- An alias for lists whose entries have an alias of their own, and an alias that leads back to
itself. -/
theorem ends_of_wholes_not_of_loop :
    let whole := Value.list [.str "required", .str "integer"]
    let wholes := Value.dict [(.str "list_of", .str "whole")]
    let loop := Value.list [.str "required", .dict [(.str "list_of", .str "loop")]]
    let ranked := ((({} : Registry).registerAlias (.str "whole") whole .null).registry.registerAlias
      (.str "wholes") wholes .null).registry
    let cyclic := (({} : Registry).registerAlias (.str "loop") loop .null).registry
    (∀ name make, ranked.find? name ≠ some (.custom make)) ∧
      (∃ rank : String → Nat, ∀ name other, ranked.Leads name other → rank other < rank name) ∧
      (∀ ledger d, outcome (ranked.parse d) ledger = .error .endless → ranked.MeetsTooDeep d) ∧
      Relation.TransGen cyclic.Leads "loop" "loop" ∧
      ∀ ledger s, outcome (cyclic.parse (.str "loop")) ledger ≠ .ok s := by
  intro whole wholes loop ranked cyclic
  have standard : ranked.IsStandard fun rules => rules = whole ∨ rules = wholes :=
    ((IsStandard.builtins "entry" true).registerAlias (.str "whole") (.inl rfl)
      (.inl rfl)).registerAlias (.str "wholes") (.inr rfl) (.inl rfl)
  have noCustom : ∀ name make, ranked.find? name ≠ some (.custom make) := fun _ _ found =>
    standard.find? found
  have inside : ranked.inside? ⟨"list_of", .str "whole"⟩ = some [.ok (.str "whole")] := rfl
  have required : ¬ ranked.IsAlias "required" := fun ⟨_, _, found⟩ => by cases found
  have integer : ¬ ranked.IsAlias "integer" := fun ⟨_, _, found⟩ => by cases found
  have listOf : ¬ ranked.IsAlias "list_of" := fun ⟨_, _, found⟩ => by cases found
  have order : ∀ name other, ranked.Leads name other →
      (if other = "whole" then 0 else 1) < if name = "whole" then 0 else 1 := by
    rintro name other ⟨rules, override, found, mentioned, isAlias⟩
    rcases (standard.find? found).1 with rfl | rfl
    · rw [mentions_list] at mentioned
      simp only [List.mem_cons, List.not_mem_nil, or_false, exists_eq_or_imp, exists_eq_left,
        mentions_name] at mentioned
      rcases mentioned with rfl | rfl
      · exact absurd isAlias required
      · exact absurd isAlias integer
    · rw [mentions_single] at mentioned
      simp only [inside, Option.some.injEq] at mentioned
      obtain rfl | ⟨_, inner, rfl, part, mentioned⟩ := mentioned
      · exact absurd isAlias listOf
      · cases List.mem_singleton.1 part
        obtain rfl := mentions_name.1 mentioned
        have other : name ≠ "whole" := by
          rintro rfl
          have same : whole = wholes := (Definition.standsFor.inj (Option.some.inj found)).1
          simp [whole, wholes] at same
        simp [other]
  have back : Relation.TransGen cyclic.Leads "loop" "loop" := by
    have entries : cyclic.Mentions (.dict [(.str "list_of", .str "loop")]) "loop" :=
      mentions_single.2 (.inr ⟨_, _, rfl, List.mem_singleton_self _, mentions_name.2 rfl⟩)
    have own : cyclic.Mentions loop "loop" := mentions_list.2 ⟨_, by simp, entries⟩
    exact .single ⟨loop, .null, rfl, own, loop, .null, rfl⟩
  refine ⟨noCustom, ⟨_, order⟩, fun ledger d => ?_, back, fun ledger s => ?_⟩
  · exact ((ends_of_ranked_not_of_cyclic ranked).1 noCustom _ order ledger).1 d
  · exact (ends_of_ranked_not_of_cyclic cyclic).2 _ _ _ (mentions_name.2 rfl) .refl back ledger s

end Registry

end RecordCheck
