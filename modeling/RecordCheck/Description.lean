import RecordCheck.Error

/-!
# Descriptions of rules

A description is the name of a rule, a mapping from names to arguments, or a list of descriptions.
Whatever its shape, it comes down to a sequence of calls, each of which names one rule and hands it
an argument. Parts with no meaning stand in the sequence as errors, so that the first error from
left to right is the one that counts.

## Main definitions

* `Call`, and `Description.calls`: the calls of a description.
* `Value.weight`: a measure by which the arguments of a description are lighter than the
  description.
-/
set_option autoImplicit false

namespace RecordCheck

/-- A rule's name with an argument; null is no argument. -/
structure Call where
  name : String
  argument : Value
deriving Repr

/-- The arguments that are handed to a rule: the entries of a list or a tuple, nothing for null, and
any other value alone. -/
def Call.arguments (call : Call) : List Value :=
  match call.argument with
  | .null => []
  | .list entries | .tuple entries => entries
  | v => [v]

namespace Value

mutual

/-- The number of parts of a value, null apart. -/
def weight : Value → Nat
  | .null => 0
  | .items _ entries | .stream _ entries => 1 + weights entries
  | .object attributes => 1 + attributeWeights attributes
  | .dict entries => 1 + entryWeights entries
  | _ => 1

def weights : List Value → Nat
  | [] => 0
  | v :: vs => v.weight + 1 + weights vs

def attributeWeights : List (String × Value) → Nat
  | [] => 0
  | (_, v) :: rest => v.weight + 1 + attributeWeights rest

def entryWeights : List (Value × Value) → Nat
  | [] => 0
  | (_, v) :: rest => v.weight + 1 + entryWeights rest

end

theorem weight_lt_entryWeights {entry : Value × Value} {entries : List (Value × Value)}
    (h : entry ∈ entries) : entry.2.weight < entryWeights entries := by
  induction entries with
  | nil => cases h
  | cons other rest ih =>
    obtain ⟨k, v⟩ := other
    simp only [entryWeights]
    rcases List.mem_cons.1 h with rfl | h
    · dsimp only
      omega
    · have := ih h
      omega

/-- The values in a mapping are lighter than the mapping. -/
theorem weight_lt_dict {entry : Value × Value} {entries : List (Value × Value)}
    (h : entry ∈ entries) : entry.2.weight < (Value.dict entries).weight := by
  rw [weight]
  have := weight_lt_entryWeights h
  omega

end Value

namespace Description

/-- The call for an entry of a mapping; its key must be a name. -/
def entryCall : Value × Value → Except Error Call
  | (.str name, argument) => .ok ⟨name, argument⟩
  | (key, _) => do throw (.ruleNameShape (← Error.quotedOf key))

mutual

/-- The calls of a description in order. A mapping without any name is a list of its values. -/
def calls : Value → List (Except Error Call)
  | .null => []
  | .str name => [.ok ⟨name, .null⟩]
  | .dict entries =>
    if (Value.dict entries).isAssociative then entries.map entryCall else valueCalls entries
  | .items .list entries | .items .tuple entries => listCalls entries
  | v => [.error (.descriptionShape v.kind)]

def listCalls : List Value → List (Except Error Call)
  | [] => []
  | v :: vs => calls v ++ listCalls vs

def valueCalls : List (Value × Value) → List (Except Error Call)
  | [] => []
  | (_, v) :: rest => calls v ++ valueCalls rest

end

/-- An entry of a mapping is heavier than the argument of its call. -/
theorem entryCall_weight {entry : Value × Value} {call : Call} (h : entryCall entry = .ok call) :
    call.argument = entry.2 := by
  obtain ⟨key, argument⟩ := entry
  cases key <;> simp only [entryCall, bind, Except.bind] at h <;> (try split at h) <;> cases h
  rfl

mutual

/-- The argument of a call is lighter than the description that the call is part of. -/
theorem argument_weight_lt {call : Call} :
    (d : Value) → .ok call ∈ calls d → call.argument.weight < d.weight
  | .null, h => by simp [calls] at h
  | .str name, h => by
    simp only [calls, List.mem_singleton, Except.ok.injEq] at h
    subst h
    simp [Value.weight]
  | .dict entries, h => by
    simp only [calls] at h
    split at h
    · obtain ⟨entry, he, hc⟩ := List.mem_map.1 h
      rw [entryCall_weight hc]
      exact Value.weight_lt_dict he
    · have := argument_weight_lt_values entries h
      rw [Value.weight]
      omega
  | .items .list entries, h | .items .tuple entries, h => by
    simp only [calls] at h
    have := argument_weight_lt_list entries h
    rw [Value.weight]
    omega
  | .items .set entries, h | .items .frozenset entries, h | .stream _ entries, h => by
    simp [calls] at h
  | .bool _, h | .int _, h | .float _, h | .brokenStr _, h | .bytes _, h | .bytearray _, h
  | .object _, h | .other .., h => by
    simp [calls] at h

theorem argument_weight_lt_list {call : Call} :
    (vs : List Value) → .ok call ∈ listCalls vs → call.argument.weight < Value.weights vs
  | [], h => by simp [listCalls] at h
  | v :: vs, h => by
    rw [listCalls, List.mem_append] at h
    rw [Value.weights]
    rcases h with h | h
    · have := argument_weight_lt v h
      omega
    · have := argument_weight_lt_list vs h
      omega

theorem argument_weight_lt_values {call : Call} :
    (es : List (Value × Value)) → .ok call ∈ valueCalls es →
      call.argument.weight < Value.entryWeights es
  | [], h => by simp [valueCalls] at h
  | (_, v) :: rest, h => by
    rw [valueCalls, List.mem_append] at h
    rw [Value.entryWeights]
    rcases h with h | h
    · have := argument_weight_lt v h
      omega
    · have := argument_weight_lt_values rest h
      omega

end

end Description

end RecordCheck
