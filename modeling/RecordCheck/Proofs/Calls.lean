import RecordCheck.Parsing
import RecordCheck.Proofs.Outcome

/-!
# Reading call by call

Reading goes through the calls of a description, the entries of a ruleset and the cases of a switch,
each time with the proof that what comes next is smaller. Here are the same steps without those
proofs.

## Main statements

* `Registry.parseWithin_eq`, `Registry.ruleWithin_eq`, `Registry.buildWithin_dict`,
  `Registry.finishWithin_variants`: the steps of reading.
* `Description.calls_single`: a mapping with one name is one call.
-/
set_option autoImplicit false

namespace RecordCheck

theorem Value.exists_entries {v : Value} (mapping : v.isMapping) :
    ∃ entries, v = .dict entries := by
  cases v with
  | dict entries => exact ⟨entries, rfl⟩
  | _ => cases mapping

/-- What is handed to a rule is no heavier than the argument of the call. -/
theorem Call.weight_le_of_mem {call : Call} {a : Value} (h : a ∈ call.arguments) :
    a.weight ≤ call.argument.weight := by
  have inside {vs : List Value} (h : a ∈ vs) : a.weight < Value.weights vs := by
    induction vs with
    | nil => cases h
    | cons v vs ih =>
      rw [Value.weights]
      rcases List.mem_cons.1 h with rfl | h
      · omega
      · have := ih h
        omega
  unfold arguments at h
  split at h
  · cases h
  · next shape =>
    rw [shape, Value.weight]
    have := inside h
    omega
  · next shape =>
    rw [shape, Value.weight]
    have := inside h
    omega
  · exact Nat.le_of_eq (congrArg Value.weight (List.mem_singleton.1 h))

namespace Description

@[simp] theorem calls_name (name : String) : calls (.str name) = [.ok ⟨name, .null⟩] := by
  rw [calls]

@[simp] theorem calls_list (entries : List Value) : calls (.list entries) = listCalls entries := by
  rw [calls]

/-- A mapping with one name is one call. -/
@[simp] theorem calls_single (name : String) (argument : Value) :
    calls (.dict [(.str name, argument)]) = [.ok ⟨name, argument⟩] := by
  rw [calls, if_pos (by simp [Value.isAssociative, Value.isStr])]
  rfl

theorem mem_listCalls {call : Except Error Call} {ds : List Value} :
    call ∈ listCalls ds ↔ ∃ d ∈ ds, call ∈ calls d := by
  induction ds with
  | nil => simp [listCalls]
  | cons d ds ih => simp [listCalls, ih]

theorem listCalls_append (vs ws : List Value) :
    listCalls (vs ++ ws) = listCalls vs ++ listCalls ws := by
  induction vs with
  | nil => rfl
  | cons v vs ih => rw [List.cons_append, listCalls, listCalls, ih, List.append_assoc]

theorem valueCalls_append (es fs : List (Value × Value)) :
    valueCalls (es ++ fs) = valueCalls es ++ valueCalls fs := by
  induction es with
  | nil => rfl
  | cons e es ih =>
    obtain ⟨key, v⟩ := e
    rw [List.cons_append, valueCalls, valueCalls, ih, List.append_assoc]

end Description

namespace Registry

section Within

variable {g : Registry} {pending : List String}
  {deeper : (name : String) → (g.find? name).isSome → ¬ pending.contains name → Reading}

theorem deeper_parse {name : String} {known : (g.find? name).isSome}
    {fresh : ¬ pending.contains name} (description : Value) :
    (g.deeper pending name known fresh).parse description =
      parseWithin g (name :: pending) (g.deeper (name :: pending)) description := by
  rw [Registry.deeper, reading]
  rfl

theorem deeper_finish {name : String} {known : (g.find? name).isSome}
    {fresh : ¬ pending.contains name} (d : Draft) :
    (g.deeper pending name known fresh).finish d =
      finishWithin g (name :: pending) (g.deeper (name :: pending)) d := by
  rw [Registry.deeper, reading]
  rfl

theorem makeWithin_unknown {call : Call} (found : g.find? call.name = none) :
    makeWithin g pending deeper call = throw (.unknownRule call.name) := by
  unfold makeWithin
  split <;> simp_all

theorem makeWithin_builtin {call : Call} {b : Builtin}
    (found : g.find? call.name = some (.builtin b)) :
    makeWithin g pending deeper call = b.make call.arguments := by
  unfold makeWithin
  split <;> simp_all

theorem makeWithin_custom {call : Call} {make : List Value → Act (Option Rule)}
    (found : g.find? call.name = some (.custom make)) :
    makeWithin g pending deeper call = (do
      match ← make call.arguments with
      | some rule => return rule
      | none => throw .madeNoRule) := by
  unfold makeWithin
  split
  case h_3 same =>
    obtain rfl := Definition.custom.inj (Option.some.inj (found.symm.trans same))
    rfl
  all_goals next same => simp [found] at same

section Alias

variable {call : Call} {rules override : Value}
  (found : g.find? call.name = some (.standsFor rules override))
include found

/-- An alias takes no arguments. -/
theorem makeWithin_arguments (given : call.arguments ≠ []) :
    makeWithin g pending deeper call = throw .wrongType := by
  unfold makeWithin
  split <;> simp_all

/-- An alias that leads back to itself has no end. -/
theorem makeWithin_pending (bare : call.arguments = []) (old : call.name ∈ pending) :
    makeWithin g pending deeper call = throw .endless := by
  unfold makeWithin
  split <;> simp_all

/-- An alias is the set of its rules, read while its name is pending. -/
theorem makeWithin_standsFor (bare : call.arguments = []) (fresh : call.name ∉ pending) :
    makeWithin g pending (g.deeper pending) call = do
      let s ← parseWithin g (call.name :: pending) (g.deeper (call.name :: pending)) rules
      return .all 0 (s.withOverride override) := by
  unfold makeWithin
  split
  case h_4 same =>
    obtain ⟨rfl, rfl⟩ := Definition.standsFor.inj (Option.some.inj (found.symm.trans same))
    rw [if_neg (by simp [bare]), dif_neg (by simpa using fresh), deeper_parse]
  all_goals next same => simp [found] at same

end Alias

theorem finishOwn_unknown {name : String} (d : Draft) (unknown : g.find? name = none) :
    finishOwn g pending deeper name d = throw (.unknownRule name) := by
  rw [finishOwn, dif_neg (by simp [unknown])]

theorem finishOwn_pending {name : String} (d : Draft) (known : (g.find? name).isSome)
    (old : name ∈ pending) : finishOwn g pending deeper name d = throw .endless := by
  rw [finishOwn, dif_pos known, dif_pos (by simpa using old)]

theorem finishOwn_fresh {name : String} (d : Draft) (known : (g.find? name).isSome)
    (fresh : name ∉ pending) :
    finishOwn g pending (g.deeper pending) name d =
      finishWithin g (name :: pending) (g.deeper (name :: pending)) d := by
  rw [finishOwn, dif_pos known, dif_neg (by simpa using fresh), deeper_finish]

/-- Finishes what a call has made. -/
def completeWithin (g : Registry) (pending : List String)
    (deeper : (name : String) → (g.find? name).isSome → ¬ pending.contains name → Reading)
    (call : Call) : Rule → Act Rule
  | .draft d =>
    if d.description.weight ≤ call.argument.weight then finishWithin g pending deeper d
    else finishOwn g pending deeper call.name d
  | rule => return rule

theorem completeWithin_finished (call : Call) {rule : Rule} (finished : rule.isDraft = false) :
    completeWithin g pending deeper call rule = pure rule := by
  cases rule with
  | draft d => cases finished
  | _ => rfl

theorem ruleWithin_eq (call : Call) : ruleWithin g pending deeper call =
    makeWithin g pending deeper call >>= completeWithin g pending deeper call := by
  rw [ruleWithin]
  rfl

theorem ruleWithin_unknown {call : Call} (unknown : g.find? call.name = none) :
    ruleWithin g pending deeper call = throw (.unknownRule call.name) := by
  rw [ruleWithin_eq, makeWithin_unknown unknown]
  rfl

/-- A rule that a built-in rule makes finished is taken as it is. -/
theorem ruleWithin_finished {call : Call} {b : Builtin} {rule : Rule}
    (found : g.find? call.name = some (.builtin b)) (made : b.make call.arguments = pure rule)
    (finished : rule.isDraft = false) : ruleWithin g pending deeper call = pure rule := by
  rw [ruleWithin_eq, makeWithin_builtin found, made, pure_bind,
    completeWithin_finished call finished]

/-- A draft that a built-in rule makes of its arguments is finished as part of the description. -/
theorem ruleWithin_draft {call : Call} {b : Builtin} {d : Draft}
    (found : g.find? call.name = some (.builtin b)) (made : b.make call.arguments = pure (.draft d))
    (described : d.description ∈ call.arguments) :
    ruleWithin g pending deeper call = finishWithin g pending deeper d := by
  rw [ruleWithin_eq, makeWithin_builtin found, made, pure_bind, completeWithin,
    if_pos (Call.weight_le_of_mem described)]

/-- The rule of a call, or the error in its place. -/
def callWithin (g : Registry) (pending : List String)
    (deeper : (name : String) → (g.find? name).isSome → ¬ pending.contains name → Reading) :
    Except Error Call → Act Rule
  | .error e => throw e
  | .ok call => ruleWithin g pending deeper call

theorem parseWithin_eq (description : Value) :
    parseWithin g pending deeper description = do
      return .mk (← (Description.calls description).mapM (callWithin g pending deeper)) .null := by
  rw [parseWithin, List.mapM_subtype (g := callWithin g pending deeper), List.unattach_attach]
  intro call member
  cases call <;> rfl

/-- The name of a built-in rule that needs no draft stands for that rule alone. -/
theorem parseWithin_name {name : String} {b : Builtin} {rule : Rule}
    (found : g.find? name = some (.builtin b)) (made : b.make [] = pure rule)
    (finished : rule.isDraft = false) :
    parseWithin g pending deeper (.str name) = pure (.mk [rule] .null) := by
  have read : callWithin g pending deeper (.ok ⟨name, .null⟩) = pure rule :=
    ruleWithin_finished found made finished
  rw [parseWithin_eq, Description.calls_name]
  simp [read]

section Alias

variable {name : String} {rules override : Value}
  (found : g.find? name = some (.standsFor rules override)) (fresh : name ∉ pending)
include found fresh

/-- The name of an alias comes down to one rule, the set of its rules. -/
theorem callWithin_alias : callWithin g pending (g.deeper pending) (.ok ⟨name, .null⟩) = do
    let s ← parseWithin g (name :: pending) (g.deeper (name :: pending)) rules
    return .all 0 (s.withOverride override) := by
  have known : g.find? (Call.mk name .null).name = some (.standsFor rules override) := found
  simp [callWithin, ruleWithin_eq, makeWithin_standsFor known rfl fresh, completeWithin]

/-- The name of an alias is one set, that of its rules. -/
theorem parseWithin_alias : parseWithin g pending (g.deeper pending) (.str name) = do
    let s ← parseWithin g (name :: pending) (g.deeper (name :: pending)) rules
    return .mk [.all 0 (s.withOverride override)] .null := by
  rw [parseWithin_eq, Description.calls_name]
  simp [callWithin_alias found fresh]

end Alias

theorem buildWithin_dict (entries : List (Value × Value)) :
    buildWithin g pending deeper (.dict entries) = entries.mapM fun entry => do
      return (entry.1, ← parseWithin g pending deeper entry.2) := by
  rw [buildWithin, List.mapM_subtype
    (g := fun entry => do return (entry.1, ← parseWithin g pending deeper entry.2)),
    List.unattach_attach]
  intro entry member
  rfl

theorem finishWithin_variants {d : Draft} {entries : List (Value × Value)}
    (kind : d.kind = .variants) (shape : d.description = .dict entries) :
    finishWithin g pending deeper d = do
      let cases ← entries.mapM fun entry => do
        return (entry.1, Validator.fields 0 (← buildWithin g pending deeper entry.2))
      return .objects d.field d.entryField (.switch 0 d.field cases) := by
  obtain ⟨_, _, field, entryField⟩ := d
  subst kind shape
  rw [finishWithin]
  dsimp only
  rw [List.mapM_subtype
    (g := fun entry => do
      return (entry.1, Validator.fields 0 (← buildWithin g pending deeper entry.2))),
    List.unattach_attach]
  intro entry member
  rfl

theorem finishWithin_noCases {d : Draft} (kind : d.kind = .variants)
    (shape : d.description.isMapping = false) :
    finishWithin g pending deeper d = throw (.ofMissingMethod d.description "items") := by
  obtain ⟨_, description, _, _⟩ := d
  subst kind
  rw [finishWithin]
  cases description with
  | dict => cases shape
  | _ => rfl

theorem finishWithin_unknown {d : Draft} {operator : Value} (kind : d.kind = .unknown operator) :
    finishWithin g pending deeper d = (do
      throw (.unknownOperator "nested" (← Error.textOf operator))) := by
  obtain ⟨_, _, _, _⟩ := d
  subst kind
  rw [finishWithin]

end Within

end Registry

namespace Builtin

theorem make_nestedObject {ruleset : Value} (mapping : ruleset.isMapping) :
    nestedObject.make [ruleset] = pure (.draft ⟨.object, ruleset, .null, .null⟩) := by
  simp [make, mappingFor, mapping, Act.lift_ok]

theorem make_listOfObjects {ruleset : Value} (mapping : ruleset.isMapping) :
    listOfObjects.make [ruleset] = pure (.draft ⟨.objects, ruleset, .null, .null⟩) := by
  simp [make, mappingFor, mapping, Act.lift_ok]

theorem make_listOfDifferentObjects (field : Value) (cases : List (Value × Value)) :
    listOfDifferentObjects.make [field, .dict cases] =
      pure (.draft ⟨.variants, .dict cases, field, .null⟩) := by
  simp [make, mappingFor, Value.isMapping, Act.lift_ok]

end Builtin

end RecordCheck
