import RecordCheck.Proofs.Positions

/-!
# Reading one after the other

The rules of descriptions in a row are the rules of each of them in a row, whichever way the
descriptions are grouped. Reading goes through the leaves of a description from left to right, those
inside a call in the place of the call, and stops at the first leaf that cannot be read.

## Main definitions

* `Description.Regroups`: descriptions with the same calls in other groups.
* `Registry.leaves`: what stands at the ends of a description.

## Main statements

* `Description.Regroups.calls_eq`: regrouping keeps the calls.
* `Registry.parse_inStep`: reading a description comes down to reading its leaves.
* `Registry.parse_concatenates`: concatenation, regrouping and the first error.
-/
set_option autoImplicit false

namespace RecordCheck

open Act

/-! ## Groups -/

/-- The first description becomes the second when one group in it is opened: a tuple or a mapping
without names is a list, a list in a list is its entries, and a mapping of names is a list of
mappings with one entry each. -/
inductive Description.Regroups : Value → Value → Prop
  | tuple (ds : List Value) : Regroups (.tuple ds) (.list ds)
  | positions {entries : List (Value × Value)} : (∀ entry ∈ entries, entry.1.isStr = false) →
      Regroups (.dict entries) (.list (entries.map (·.2)))
  | names {entries : List (Value × Value)} : (∀ entry ∈ entries, entry.1.isStr) →
      Regroups (.dict entries) (.list (entries.map fun entry => .dict [entry]))
  | nested (before inner behind : List Value) :
      Regroups (.list (before ++ .list inner :: behind)) (.list (before ++ inner ++ behind))
  | element {d d' : Value} (before behind : List Value) : Regroups d d' →
      Regroups (.list (before ++ d :: behind)) (.list (before ++ d' :: behind))

namespace Description

theorem valueCalls_eq (entries : List (Value × Value)) :
    valueCalls entries = listCalls (entries.map (·.2)) := by
  induction entries with
  | nil => rfl
  | cons entry entries ih => rw [valueCalls, List.map_cons, listCalls, ih]

theorem calls_positions {entries : List (Value × Value)}
    (noName : ∀ entry ∈ entries, entry.1.isStr = false) :
    calls (.dict entries) = listCalls (entries.map (·.2)) := by
  have positional : (Value.dict entries).isAssociative = false := by
    simpa [Value.isAssociative] using noName
  rw [calls, if_neg (by simp [positional]), valueCalls_eq]

theorem calls_entry {entry : Value × Value} (name : entry.1.isStr) :
    calls (.dict [entry]) = [entryCall entry] := by
  rw [calls, if_pos (by simp [Value.isAssociative, name])]
  rfl

theorem calls_names {entries : List (Value × Value)} (names : ∀ entry ∈ entries, entry.1.isStr) :
    calls (.dict entries) = listCalls (entries.map fun entry => .dict [entry]) := by
  have each : listCalls (entries.map fun entry => .dict [entry]) = entries.map entryCall := by
    induction entries with
    | nil => rfl
    | cons entry entries ih =>
      rw [List.map_cons, List.map_cons, listCalls, calls_entry (names entry (by simp)),
        ih fun e h => names e (by simp [h])]
      rfl
  cases entries with
  | nil => rfl
  | cons entry entries =>
    rw [calls, if_pos (by simp [Value.isAssociative, names entry]), each]

/-- Regrouping keeps the calls and their order. -/
theorem Regroups.calls_eq {d d' : Value} (h : Regroups d d') : calls d = calls d' := by
  induction h with
  | tuple ds => rw [calls, calls]
  | positions noName => rw [calls_positions noName, calls_list]
  | names all => rw [calls_names all, calls_list]
  | nested before inner behind => simp [listCalls_append, listCalls]
  | element before behind _ ih => simp [listCalls_append, listCalls, ih]

end Description

namespace Registry

/-! ## Leaves -/

/-- What stands at the ends of a description from left to right: the calls without descriptions
inside, and the errors that stand in the places of calls and descriptions. -/
def leaves (g : Registry) (d : Value) : List (Except Error Call) :=
  (Description.calls d).attach.flatMap fun
    | ⟨.error e, _⟩ => [.error e]
    | ⟨.ok call, member⟩ =>
      match inside : g.inside? call with
      | none => [.ok call]
      | some parts => parts.attach.flatMap fun
        | ⟨.error e, _⟩ => [.error e]
        | ⟨.ok inner, part⟩ =>
          have : inner.weight < d.weight :=
            Nat.lt_of_le_of_lt (weight_of_mem_inside? inside part)
              (Description.argument_weight_lt d member)
          leaves g inner
termination_by d.weight

/-- The leaves of a description, or the error in its place. -/
def partLeaves (g : Registry) : Except Error Value → List (Except Error Call)
  | .error e => [.error e]
  | .ok inner => g.leaves inner

/-- The leaves of a call, or the error in its place. -/
def callLeaves (g : Registry) : Except Error Call → List (Except Error Call)
  | .error e => [.error e]
  | .ok call => match g.inside? call with
    | none => [.ok call]
    | some parts => parts.flatMap g.partLeaves

variable {g : Registry}

theorem leaves_eq (d : Value) : g.leaves d = (Description.calls d).flatMap g.callLeaves := by
  rw [leaves, List.flatMap_subtype (g := g.callLeaves), List.unattach_attach]
  intro call member
  cases call with
  | error e => rfl
  | ok call =>
    rw [callLeaves]
    dsimp only
    split
    · next none => rw [none]
    · next parts inside =>
      rw [inside, List.flatMap_subtype (g := g.partLeaves), List.unattach_attach]
      intro part _
      cases part <;> rfl

/-- A leaf has no descriptions inside. -/
theorem inside?_of_mem_leaves (d : Value) {call : Call} (h : .ok call ∈ g.leaves d) :
    g.inside? call = none := by
  rw [leaves_eq] at h
  obtain ⟨outer, member, h⟩ := List.mem_flatMap.1 h
  rcases outer with e | outer
  · cases List.mem_singleton.1 h
  rw [callLeaves] at h
  cases inside : g.inside? outer with
  | none =>
    rw [inside] at h
    cases List.mem_singleton.1 h
    exact inside
  | some parts =>
    rw [inside] at h
    obtain ⟨part, found, h⟩ := List.mem_flatMap.1 h
    rcases part with e | inner
    · cases List.mem_singleton.1 h
    have := weight_of_mem_inside? inside found
    have := Description.argument_weight_lt d member
    exact inside?_of_mem_leaves inner h
termination_by d.weight

section Within

variable {pending : List String}
  {deeper : (name : String) → (g.find? name).isSome → ¬ pending.contains name → Reading}

/-- Reading a description comes down to reading its leaves one after the other. -/
theorem parseWithin_inStep (d : Value) : InStep (parseWithin g pending deeper d)
    ((g.leaves d).mapM (callWithin g pending deeper)) := by
  rw [parseWithin_eq, leaves_eq]
  refine InStep.result (.mapM_flatMap fun call member => ?_) _
  rcases call with e | call
  · exact .single _ _
  rw [callLeaves]
  cases inside : g.inside? call with
  | none => exact .single (callWithin g pending deeper) (.ok call)
  | some parts =>
    refine (ruleWithin_inStep inside).trans (.mapM_flatMap fun part found => ?_)
    rcases part with e | inner
    · exact .throw e
    have := weight_of_mem_inside? inside found
    have := Description.argument_weight_lt d member
    exact parseWithin_inStep inner
termination_by d.weight

end Within

/-- Reads a leaf. -/
def readLeaf (g : Registry) : Except Error Call → Act Rule
  | .error e => throw e
  | .ok call => g.rule call

theorem parse_inStep (d : Value) : InStep (g.parse d) ((g.leaves d).mapM g.readLeaf) := by
  have same : g.readLeaf = callWithin g [] (g.deeper []) := by
    funext call
    cases call <;> rfl
  rw [same]
  exact parseWithin_inStep d

/-! ## The whole -/

theorem parse_congr {d d' : Value} (h : Description.calls d = Description.calls d') :
    g.parse d = g.parse d' := by
  rw [parse, parse, parseWithin_eq, parseWithin_eq, h]

theorem parse_append {container : Container} (sequence : container = .list ∨ container = .tuple)
    (xs ys : List Value) : g.parse (.items container (xs ++ ys)) = do
      let s ← g.parse (.items container xs)
      let t ← g.parse (.items container ys)
      return s.merge t := by
  have calls (ds : List Value) :
      Description.calls (.items container ds) = Description.listCalls ds := by
    rcases sequence with rfl | rfl <;> rw [Description.calls]
  simp [parse, parseWithin_eq, calls, Description.listCalls_append, List.mapM_append,
    RuleSet.merge, RuleSet.rules, RuleSet.override]

theorem parse_override {d : Value} {ledger : Ledger} {s : RuleSet}
    (read : outcome (g.parse d) ledger = .ok s) : s.override = .null := by
  rw [parse, parseWithin_eq] at read
  obtain ⟨rules, -, made⟩ := outcome_bind_ok.1 read
  cases made
  rfl

/-- Descriptions in a row give their rules in a row; grouping them differently makes no difference;
no set that is read has a code of its own, so none is lost where sets are merged; and what goes
wrong is what goes wrong with the first leaf that cannot be read, where those to the left of it,
and those inside what stands to the left of it, have been read. -/
theorem parse_concatenates (g : Registry) :
    (∀ container, container = .list ∨ container = .tuple → ∀ xs ys,
      g.parse (.items container (xs ++ ys)) = do
        let s ← g.parse (.items container xs)
        let t ← g.parse (.items container ys)
        return s.merge t) ∧
    (∀ d d', Relation.EqvGen Description.Regroups d d' → g.parse d = g.parse d') ∧
    (∀ d d' ledger ledger' s t, outcome (g.parse d) ledger = .ok s →
      outcome (g.parse d') ledger' = .ok t → s.override = .null ∧
        (s.merge t).rules = s.rules ++ t.rules ∧ (s.merge t).override = s.override ∧
        (s.merge t).override = t.override) ∧
    ∀ d, (∀ call, .ok call ∈ g.leaves d → g.inside? call = none) ∧
      ∀ ledger e, outcome (g.parse d) ledger = .error e ↔
        ∃ before leaf behind rules, g.leaves d = before ++ leaf :: behind ∧
          outcome (before.mapM g.readLeaf) ledger = .ok rules ∧
          outcome (g.readLeaf leaf) (after (before.mapM g.readLeaf) ledger) = .error e := by
  refine ⟨fun _ sequence => parse_append sequence, fun d d' regrouped => ?_,
    fun d d' ledger ledger' s t first second => ?_, fun d => ⟨fun _ => inside?_of_mem_leaves d, ?_⟩⟩
  · refine parse_congr ?_
    induction regrouped with
    | rel _ _ step => exact step.calls_eq
    | refl _ => rfl
    | symm _ _ _ ih => exact ih.symm
    | trans _ _ _ _ _ first second => exact first.trans second
  · have null := parse_override first
    exact ⟨null, rfl, rfl, null.trans (parse_override second).symm⟩
  · intro ledger e
    rw [(parse_inStep d).error_iff, mapM_error_iff]

/-- Three rules in groups, and a list of entries with an unknown rule before another one. -/
theorem parse_concatenates_required :
    let g : Registry := {}
    let rule (name : String) := Value.dict [(.str name, .null)]
    let grouped := Value.list [.dict [(.int 0, rule "required"), (.int 1, rule "integer")],
      .tuple [rule "string"]]
    let flat := Value.dict [(.str "required", .null), (.str "integer", .null),
      (.str "string", .null)]
    let required := Call.mk "required" .null
    let unknown := Value.list
      [.dict [(.str "list_of", .list [.list [.str "required", .str "one"]])], .str "two"]
    (g.parse (.list [.str "required", .str "integer"]) = do
      let s ← g.parse (.list [.str "required"])
      let t ← g.parse (.list [.str "integer"])
      return s.merge t) ∧
    Relation.EqvGen Description.Regroups grouped flat ∧ g.parse grouped = g.parse flat ∧
    (∃ s, outcome (g.parse (.str "required")) {} = .ok s ∧ s.override = .null) ∧
    g.leaves unknown = [.ok required, .ok ⟨"one", .null⟩, .ok ⟨"two", .null⟩] ∧
    g.inside? required = none ∧ outcome (g.parse unknown) {} = .error (.unknownRule "one") := by
  intro g rule grouped flat required unknown
  obtain ⟨append, regroup, merged, failed⟩ := parse_concatenates g
  have made : g.rule required = pure (.blank .required) :=
    ruleWithin_finished (b := .required) rfl rfl rfl
  have missing : ruleWithin g [] (g.deeper []) ⟨"one", .null⟩ = throw (.unknownRule "one") :=
    ruleWithin_unknown rfl
  have read : outcome (g.parse (.str "required")) {} = .ok (.mk [.blank .required] .null) := by
    rw [parse, parseWithin_name (b := .required) rfl rfl rfl, outcome_pure]
  have same : Relation.EqvGen Description.Regroups grouped flat := by
    have opened : Relation.EqvGen Description.Regroups grouped
        (.list [.list [rule "required", rule "integer"], .tuple [rule "string"]]) :=
      .rel _ _ (.element [] _ (.positions (by simp [Value.isStr])))
    have listed : Relation.EqvGen Description.Regroups
        (.list [.list [rule "required", rule "integer"], .tuple [rule "string"]])
        (.list [rule "required", rule "integer", .list [rule "string"]]) :=
      .trans _ _ _ (.rel _ _ (.nested [] _ _)) (.rel _ _ (.element [_, _] [] (.tuple _)))
    have joined : Relation.EqvGen Description.Regroups
        (.list [rule "required", rule "integer", .list [rule "string"]])
        (.list [rule "required", rule "integer", rule "string"]) :=
      .rel _ _ (.nested [_, _] _ [])
    have split : Relation.EqvGen Description.Regroups flat
        (.list [rule "required", rule "integer", rule "string"]) :=
      .rel _ _ (.names (by simp [Value.isStr]))
    exact (opened.trans _ _ _ listed).trans _ _ _ (joined.trans _ _ _ (split.symm _ _))
  have leaves : g.leaves unknown = [.ok required, .ok ⟨"one", .null⟩, .ok ⟨"two", .null⟩] := by
    have entries : g.leaves (.list [.str "required", .str "one"]) =
        [.ok required, .ok ⟨"one", .null⟩] := by
      rw [leaves_eq, Description.calls_list]
      rfl
    have inside : g.inside? ⟨"list_of", .list [.list [.str "required", .str "one"]]⟩ =
        some [.ok (.list [.str "required", .str "one"])] := rfl
    rw [leaves_eq, Description.calls_list]
    simp [Description.listCalls, callLeaves, inside, partLeaves, entries]
    rfl
  refine ⟨append .list (.inl rfl) [.str "required"] [.str "integer"], same, regroup _ _ same,
    ⟨_, read, (merged _ _ _ _ _ _ read read).1⟩, leaves,
    (failed unknown).1 required (by simp [leaves]), ?_⟩
  refine ((failed unknown).2 {} _).2 ⟨[.ok required], _, _, [.blank .required], leaves, ?_, ?_⟩
  · simp [readLeaf, made]
  · rw [readLeaf, Registry.rule, missing]
    rfl

end Registry

end RecordCheck
