import Mathlib.Logic.Relation
import RecordCheck.Proofs.Calls
import RecordCheck.Proofs.Coupling

/-!
# Descriptions inside descriptions

A rule for nested records or for lists is described by further descriptions in the arguments of its
call: one for the entries of a list, or one for each field of a ruleset. Reading the call comes down
to reading these one after the other, and then to putting rules together, which cannot fail.

## Main definitions

* `Act.InStep`: actions that succeed or fail together.
* `Description.ofRuleset`, `Registry.inside?`: the descriptions inside a ruleset and inside a call.
* `Registry.Mentions`, `Registry.Leads`: the names that stand where rules stand in a description, or
  in the rules of an alias.

## Main statements

* `Registry.buildWithin_inStep`, `Registry.ruleWithin_inStep`: rulesets and calls are read by
  reading the descriptions inside.
* `Registry.make_plain`: any other call of a built-in rule makes no draft.
* `Registry.mentions_name`, `Registry.mentions_list`, `Registry.mentions_single`: what is mentioned,
  worked out along a description.
-/
set_option autoImplicit false

namespace RecordCheck

open Act

/-! ## Actions in step -/

/-- Two actions give a result from the same ledgers and leave the same ledger then, and they fail
with the same errors. -/
abbrev Act.InStep {α β : Type} (a : Act α) (b : Act β) : Prop :=
  Coupling.agreement.Holds (fun _ _ => True) a b

namespace Act.InStep

variable {α β γ : Type} {a : Act α} {b : Act β}

theorem refl (a : Act α) : InStep a a :=
  Coupling.Holds.refl (R := fun _ _ => True) (fun _ => trivial) a

theorem trans {k : Act γ} (first : InStep a b) (second : InStep b k) : InStep a k :=
  Coupling.Holds.compose (fun _ _ _ _ _ => trivial) first second

/-- What is made of a result makes no difference. -/
theorem result (h : InStep a b) (f : α → γ) : InStep (do return f (← a)) b := by
  rw [← bind_pure b]
  exact h.bind fun _ _ _ => .pure trivial

theorem mapM {xs : List γ} {f : γ → Act α} {g : γ → Act β}
    (each : ∀ x ∈ xs, InStep (f x) (g x)) : InStep (xs.mapM f) (xs.mapM g) :=
  (Coupling.Holds.mapM each).mono fun _ _ _ => trivial

theorem single (f : γ → Act α) (x : γ) : InStep (f x) ([x].mapM f) := by
  rw [List.mapM_cons]
  conv_lhs => rw [← bind_pure (f x)]
  exact Coupling.Holds.bind (R := fun _ _ => True) (refl _) fun _ _ _ => .pure trivial

/-- Two actions in a row keep step with two lists in a row. -/
theorem append {ps qs : List γ} {f : γ → Act β} {α' : Type} {k : α → Act α'}
    (first : InStep a (ps.mapM f)) (next : ∀ x, InStep (k x) (qs.mapM f)) :
    InStep (a >>= k) ((ps ++ qs).mapM f) := by
  rw [List.mapM_append]
  refine first.bind fun x _ _ => ?_
  rw [← bind_pure (k x)]
  exact (next x).bind fun _ _ _ => .pure trivial

/-- When each entry of a list keeps step with a list of its own, the list keeps step with all of
these in a row. -/
theorem mapM_flatMap {δ : Type} {xs : List γ} {f : γ → Act α} {k : γ → List δ} {h : δ → Act β}
    (each : ∀ x ∈ xs, InStep (f x) ((k x).mapM h)) :
    InStep (xs.mapM f) ((xs.flatMap k).mapM h) := by
  induction xs with
  | nil => exact .pure trivial
  | cons x xs ih =>
    rw [List.mapM_cons, List.flatMap_cons]
    exact (each x (by simp)).append fun _ => (ih fun x h => each x (by simp [h])).result _

theorem error_iff (h : InStep a b) {ledger : Ledger} {e : Error} :
    outcome a ledger = .error e ↔ outcome b ledger = .error e := by
  have run := h ledger ledger rfl
  unfold Coupling.Pairs at run
  split at run <;> simp_all [Coupling.agreement]

theorem ok_iff (h : InStep a b) {ledger : Ledger} :
    (∃ x, outcome a ledger = .ok x) ↔ ∃ y, outcome b ledger = .ok y := by
  have run := h ledger ledger rfl
  unfold Coupling.Pairs at run
  split at run <;> simp_all [Coupling.agreement]

end Act.InStep

/-! ## What is inside -/

/-- The descriptions for the fields of a ruleset in their order. What is no ruleset has its error in
their place. -/
def Description.ofRuleset : Value → List (Except Error Value)
  | .null => []
  | .dict entries => entries.map fun entry => .ok entry.2
  | v => [.error (.rulesetShape v.kind)]

namespace Registry

/-- The descriptions inside the arguments of a call in their order; `none` when the call is not that
of a rule with descriptions inside. -/
def inside? (g : Registry) (call : Call) : Option (List (Except Error Value)) :=
  match g.find? call.name, call.arguments with
  | some (.builtin .listOf), [description] => some [.ok description]
  | some (.builtin .nestedObject), [.dict entries]
  | some (.builtin .listOfObjects), [.dict entries] => some (Description.ofRuleset (.dict entries))
  | some (.builtin .listOfDifferentObjects), [_, .dict cases] =>
    some (cases.flatMap fun case => Description.ofRuleset case.2)
  | _, _ => none

end Registry

/-- A description for a field of a ruleset is lighter than the ruleset. -/
theorem Description.weight_of_mem_ofRuleset {ruleset d : Value} (h : .ok d ∈ ofRuleset ruleset) :
    d.weight < ruleset.weight := by
  cases ruleset with
  | null => simp [ofRuleset] at h
  | dict entries =>
    obtain ⟨entry, member, same⟩ := List.mem_map.1 h
    cases same
    exact Value.weight_lt_dict member
  | _ => simp [ofRuleset] at h

namespace Registry

variable {g : Registry} {call : Call} {parts : List (Except Error Value)}

/-- A description inside a call is no heavier than the argument of the call. -/
theorem weight_of_mem_inside? (inside : g.inside? call = some parts) {d : Value}
    (h : .ok d ∈ parts) : d.weight ≤ call.argument.weight := by
  unfold inside? at inside
  split at inside
  · next given =>
    cases inside
    cases List.mem_singleton.1 h
    exact Call.weight_le_of_mem (by simp [given])
  · next entries _ given =>
    cases inside
    have := Description.weight_of_mem_ofRuleset h
    have := Call.weight_le_of_mem (show .dict entries ∈ call.arguments by simp [given])
    omega
  · next entries _ given =>
    cases inside
    have := Description.weight_of_mem_ofRuleset h
    have := Call.weight_le_of_mem (show .dict entries ∈ call.arguments by simp [given])
    omega
  · next cases _ given =>
    cases inside
    obtain ⟨case, member, h⟩ := List.mem_flatMap.1 h
    have := Description.weight_of_mem_ofRuleset h
    have := Value.weight_lt_dict member
    have := Call.weight_le_of_mem (show .dict cases ∈ call.arguments by simp [given])
    omega
  · cases inside

section Within

variable {pending : List String}
  {deeper : (name : String) → (g.find? name).isSome → ¬ pending.contains name → Reading}

/-- Reads a description, or fails with the error that stands in its place. -/
def readWithin (g : Registry) (pending : List String)
    (deeper : (name : String) → (g.find? name).isSome → ¬ pending.contains name → Reading) :
    Except Error Value → Act RuleSet
  | .error e => throw e
  | .ok description => parseWithin g pending deeper description

/-- A ruleset is read by reading the descriptions in it. -/
theorem buildWithin_inStep (ruleset : Value) :
    InStep (buildWithin g pending deeper ruleset)
      ((Description.ofRuleset ruleset).mapM (readWithin g pending deeper)) := by
  match ruleset with
  | .null =>
    rw [buildWithin, Description.ofRuleset]
    exact .pure trivial
  | .dict entries =>
    rw [buildWithin_dict, Description.ofRuleset, List.mapM_map]
    exact .mapM fun entry _ => (InStep.refl _).result _
  | .bool _ | .int _ | .float _ | .str _ | .brokenStr _ | .bytes _ | .bytearray _ | .items ..
  | .stream .. | .object _ | .other .. =>
    simp only [buildWithin, Description.ofRuleset, List.mapM_cons]
    exact .throw _

/-- A call with descriptions inside is read by reading these. -/
theorem ruleWithin_inStep (inside : g.inside? call = some parts) :
    InStep (ruleWithin g pending deeper call) (parts.mapM (readWithin g pending deeper)) := by
  unfold inside? at inside
  split at inside
  · next description found given =>
    cases inside
    rw [ruleWithin_draft found (by rw [given]; rfl) (by simp [given]), finishWithin]
    simp only [List.mapM_cons, List.mapM_nil]
    exact Coupling.Holds.bind (R := fun _ _ => True) (InStep.refl _) fun _ _ _ => .pure trivial
  · next entries found given =>
    cases inside
    rw [ruleWithin_draft found (by rw [given, Builtin.make_nestedObject rfl]) (by simp [given]),
      finishWithin]
    exact (buildWithin_inStep _).result _
  · next entries found given =>
    cases inside
    rw [ruleWithin_draft found (by rw [given, Builtin.make_listOfObjects rfl]) (by simp [given]),
      finishWithin]
    exact (buildWithin_inStep _).result _
  · next field cases found given =>
    cases inside
    rw [ruleWithin_draft found (by rw [given, Builtin.make_listOfDifferentObjects])
      (by simp [given]), finishWithin_variants rfl rfl]
    exact (InStep.mapM_flatMap fun case _ => (buildWithin_inStep case.2).result _).result _
  · cases inside

end Within

/-- A call of a built-in rule without descriptions inside makes no draft. -/
theorem make_plain {b : Builtin} (found : g.find? call.name = some (.builtin b))
    (plain : g.inside? call = none) :
    Yields (b.make call.arguments) fun rule => rule.isDraft = false := by
  have made {α : Type} {r : Except Error α} {f : α → Rule}
      (finished : ∀ x, (f x).isDraft = false) :
      Yields (do return f (← r)) fun rule => rule.isDraft = false :=
    Ensures.bind (.lift (fun _ _ => trivial) fun _ _ => trivial) fun x _ => .pure (finished x)
  unfold inside? at plain
  generalize call.arguments = args at plain ⊢
  rw [found] at plain
  unfold Builtin.make
  split
  case h_30 | h_32 | h_33 =>
    -- What is no mapping is rejected.
    cases ‹Value› with
    | dict => simp at plain
    | _ => exact .throw trivial
  case h_31 => simp at plain
  case h_34 => exact .throw trivial
  case h_4 | h_14 | h_15 => exact .map ((yields_any _).mono (fun _ _ => rfl) fun _ h => h)
  case h_6 | h_7 | h_8 | h_9 | h_10 | h_11 | h_12 | h_13 | h_20 | h_21 | h_22 =>
    exact made fun _ => rfl
  all_goals exact .pure rfl

/-! ## What is mentioned -/

/-- The second description stands inside a call of the first. -/
def Encloses (g : Registry) (d inner : Value) : Prop :=
  ∃ call parts, .ok call ∈ Description.calls d ∧ g.inside? call = some parts ∧ .ok inner ∈ parts

/-- A description has a call of a name, however deep inside the arguments of other calls. -/
def Mentions (g : Registry) (d : Value) (name : String) : Prop :=
  ∃ inner call, Relation.ReflTransGen g.Encloses d inner ∧
    .ok call ∈ Description.calls inner ∧ call.name = name

/-- A name stands for rules. -/
def IsAlias (g : Registry) (name : String) : Prop :=
  ∃ rules override, g.find? name = some (.standsFor rules override)

/-- The first name is that of an alias whose rules mention the second, which is an alias too. -/
def Leads (g : Registry) (name other : String) : Prop :=
  ∃ rules override, g.find? name = some (.standsFor rules override) ∧ g.Mentions rules other ∧
    g.IsAlias other

section Mentioned

variable {d inner : Value} {name other : String}

theorem Mentions.here (h : .ok call ∈ Description.calls d) : g.Mentions d call.name :=
  ⟨d, call, .refl, h, rfl⟩

theorem Mentions.inside (step : g.Encloses d inner) (h : g.Mentions inner name) :
    g.Mentions d name := by
  obtain ⟨last, call, way, member, same⟩ := h
  exact ⟨last, call, .head step way, member, same⟩

/-- What a description mentions it mentions itself or inside one of its calls. -/
theorem mentions_iff :
    g.Mentions d name ↔ (∃ call, .ok call ∈ Description.calls d ∧ call.name = name) ∨
      ∃ inner, g.Encloses d inner ∧ g.Mentions inner name := by
  constructor
  · rintro ⟨last, call, way, member, same⟩
    rcases Relation.ReflTransGen.cases_head way with rfl | ⟨inner, step, way⟩
    · exact .inl ⟨call, member, same⟩
    · exact .inr ⟨inner, step, last, call, way, member, same⟩
  · rintro (⟨call, member, rfl⟩ | ⟨inner, step, mentioned⟩)
    · exact .here member
    · exact .inside step mentioned

theorem mentions_name : g.Mentions (.str name) other ↔ name = other := by
  have bare : g.inside? ⟨name, .null⟩ = none := by
    unfold inside? Call.arguments
    split <;> simp_all
  rw [mentions_iff]
  simp only [Encloses, Description.calls_name, List.mem_singleton, Except.ok.injEq]
  constructor
  · rintro (⟨call, rfl, rfl⟩ | ⟨inner, ⟨call, parts, rfl, inside, -⟩, -⟩)
    · rfl
    · cases bare.symm.trans inside
  · rintro rfl
    exact .inl ⟨_, rfl, rfl⟩

theorem mentions_list {ds : List Value} :
    g.Mentions (.list ds) name ↔ ∃ d ∈ ds, g.Mentions d name := by
  constructor
  · intro h
    rcases mentions_iff.1 h with ⟨call, member, rfl⟩ | ⟨inner, ⟨call, parts, member, step⟩, rest⟩
    · obtain ⟨d, h, member⟩ := Description.mem_listCalls.1 (Description.calls_list ds ▸ member)
      exact ⟨d, h, .here member⟩
    · obtain ⟨d, h, member⟩ := Description.mem_listCalls.1 (Description.calls_list ds ▸ member)
      exact ⟨d, h, .inside ⟨call, parts, member, step⟩ rest⟩
  · rintro ⟨d, h, mentioned⟩
    have calls {call : Except Error Call} (member : call ∈ Description.calls d) :
        call ∈ Description.calls (.list ds) :=
      Description.calls_list ds ▸ Description.mem_listCalls.2 ⟨d, h, member⟩
    rcases mentions_iff.1 mentioned with
      ⟨call, member, rfl⟩ | ⟨inner, ⟨call, parts, member, step⟩, rest⟩
    · exact .here (calls member)
    · exact .inside ⟨call, parts, calls member, step⟩ rest

theorem mentions_single {argument : Value} :
    g.Mentions (.dict [(.str name, argument)]) other ↔ name = other ∨
      ∃ parts inner, g.inside? ⟨name, argument⟩ = some parts ∧ .ok inner ∈ parts ∧
        g.Mentions inner other := by
  rw [mentions_iff]
  simp only [Encloses, Description.calls_single, List.mem_singleton, Except.ok.injEq]
  constructor
  · rintro (⟨call, rfl, rfl⟩ | ⟨inner, ⟨call, parts, rfl, inside, part⟩, mentioned⟩)
    · exact .inl rfl
    · exact .inr ⟨parts, inner, inside, part, mentioned⟩
  · rintro (rfl | ⟨parts, inner, inside, part, mentioned⟩)
    · exact .inl ⟨_, rfl, rfl⟩
    · exact .inr ⟨inner, ⟨_, parts, rfl, inside, part⟩, mentioned⟩

end Mentioned

end Registry

end RecordCheck
