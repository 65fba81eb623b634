import RecordCheck.Proofs.Calls
import RecordCheck.Proofs.Keyed
import RecordCheck.Proofs.Piece

/-!
# What is read from descriptions

Whatever a description is, the rules that are read from it consist of what the names make and of the
validators and sets that reading puts around them. A property of pieces that these have is a
property of all pieces of a validator that has been built.

## Main definitions

* `Registry.Upholds`: what makes a property of pieces one of all that a registry reads.

## Main statements

* `Registry.parse_upholds`, `Registry.build_upholds`: all pieces of what is read have the property.
* `Registry.build_fields`: a validator has rules for the fields of its ruleset, in their order.
-/
set_option autoImplicit false

namespace RecordCheck

open Act

/-- A property of null, and of the values inside a list or a mapping that has it. -/
structure Value.Hereditary (D : Value → Prop) : Prop where
  null : D .null
  items : ∀ {container entries}, D (.items container entries) → ∀ v ∈ entries, D v
  dict : ∀ {entries}, D (.dict entries) → ∀ entry ∈ entries, D entry.2

/-- In every mapping with a property, the keys are texts, and no two are the same. -/
def Value.Names (D : Value → Prop) : Prop :=
  ∀ entries, D (.dict entries) → Keyed.IsDistinct entries ∧ ∀ entry ∈ entries, entry.1.isStr

/-- A key of a mapping with a property. -/
def Value.KeyOf (D : Value → Prop) (key : Value) : Prop :=
  ∃ entries, D (.dict entries) ∧ ∃ entry ∈ entries, entry.1 = key

namespace Description

variable {D : Value → Prop} {call : Call}

mutual

/-- The argument of a call is found inside the description. -/
theorem argument_of_mem_calls (hereditary : Value.Hereditary D) :
    (d : Value) → D d → .ok call ∈ calls d → D call.argument
  | .null, _, h => by simp [calls] at h
  | .str name, _, h => by
    simp only [calls, List.mem_singleton, Except.ok.injEq] at h
    exact h ▸ hereditary.null
  | .dict entries, hd, h => by
    simp only [calls] at h
    split at h
    · obtain ⟨entry, he, hc⟩ := List.mem_map.1 h
      exact entryCall_weight hc ▸ hereditary.dict hd entry he
    · exact argument_of_mem_valueCalls hereditary entries (hereditary.dict hd) h
  | .items .list entries, hd, h | .items .tuple entries, hd, h => by
    simp only [calls] at h
    exact argument_of_mem_listCalls hereditary entries (hereditary.items hd) h
  | .items .set _, _, h | .items .frozenset _, _, h | .stream .., _, h => by simp [calls] at h
  | .bool _, _, h | .int _, _, h | .float _, _, h | .brokenStr _, _, h | .bytes _, _, h
  | .bytearray _, _, h | .object _, _, h | .other .., _, h => by simp [calls] at h

theorem argument_of_mem_listCalls (hereditary : Value.Hereditary D) :
    (vs : List Value) → (∀ v ∈ vs, D v) → .ok call ∈ listCalls vs →
      D call.argument
  | [], _, h => by simp [listCalls] at h
  | v :: vs, hd, h => by
    rw [listCalls, List.mem_append] at h
    rcases h with h | h
    · exact argument_of_mem_calls hereditary v (hd v (by simp)) h
    · exact argument_of_mem_listCalls hereditary vs (fun w hw => hd w (by simp [hw])) h

theorem argument_of_mem_valueCalls (hereditary : Value.Hereditary D) :
    (es : List (Value × Value)) → (∀ e ∈ es, D e.2) → .ok call ∈ valueCalls es →
      D call.argument
  | [], _, h => by simp [valueCalls] at h
  | (k, v) :: rest, hd, h => by
    rw [valueCalls, List.mem_append] at h
    rcases h with h | h
    · exact argument_of_mem_calls hereditary v (hd (k, v) (by simp)) h
    · exact argument_of_mem_valueCalls hereditary rest (fun e he => hd e (by simp [he])) h

end

end Description

/-- The arguments of a call inherit from its argument. -/
theorem Call.forall_arguments {D : Value → Prop} (hereditary : Value.Hereditary D) {call : Call}
    (h : D call.argument) : ∀ a ∈ call.arguments, D a := by
  intro a ha
  unfold Call.arguments at ha
  split at ha
  · cases ha
  · next shape => exact hereditary.items (shape ▸ h) a ha
  · next shape => exact hereditary.items (shape ▸ h) a ha
  · rwa [List.mem_singleton.1 ha]

/-- Whether a validator has rules for fields, rather than a choice between validators. -/
def Validator.isFlat : Validator → Bool
  | .fields .. => true
  | .switch .. => false

/-- Rules that others are found in, as reading puts them together: only the entries of a list are
told apart by a switch. -/
def Rule.IsComposed : Rule → Prop
  | .object _ _ v => v.isFlat
  | .listOf .. | .objects .. | .all .. => True
  | _ => False

/-- All pieces of a rule that was made have a property; in the place of a draft stands its
description. -/
def Made (D : Value → Prop) (q : Piece → Prop) : Rule → Prop
  | .draft d => D d.description
  | rule => ∀ x ∈ rule.pieces, q x

theorem Made.mono {D E : Value → Prop} {p q : Piece → Prop} (data : ∀ d, D d → E d)
    (pieces : ∀ x, p x → q x) {rule : Rule} (made : Made D p rule) : Made E q rule := by
  cases rule with
  | draft d => exact data _ made
  | _ => exact fun x hx => pieces x (made x hx)

/-- What a registry makes from arguments with one property consists of pieces with another, and so
do the rules, sets and validators that reading puts together. -/
structure Registry.Upholds (g : Registry) (D : Value → Prop) (q : Piece → Prop) : Prop where
  hereditary : Value.Hereditary D
  builtin : ∀ (b : Builtin) args, (∀ a ∈ args, D a) → Yields (b.make args) (Made D q)
  custom : ∀ name make, g.find? name = some (.custom make) → ∀ args, (∀ a ∈ args, D a) →
    Yields (make args) fun made => ∀ rule ∈ made, Made D q rule
  standsFor : ∀ name rules override, g.find? name = some (.standsFor rules override) →
    D rules ∧ ∀ members, q (.set (.mk members override))
  composed : ∀ rule : Rule, rule.IsComposed → q (.rule rule)
  set : ∀ members, q (.set (.mk members .null))
  fields : ∀ serial entries, (∀ entry ∈ entries, Value.KeyOf D entry.1) →
    (Value.Names D → Keyed.IsDistinct entries) → q (.validator (.fields serial entries))
  switch : ∀ serial field cases, (∀ case ∈ cases, case.2.isFlat) →
    q (.validator (.switch serial field cases))

/-- A set that was read has no override, and all of its pieces have a property. -/
def RuleSet.Laid (q : Piece → Prop) (s : RuleSet) : Prop :=
  s.override = .null ∧ ∀ x ∈ s.pieces, q x

/-- The rules for a field that was read: the field is a key of a mapping, and the rules are laid. -/
def Registry.Placed (D : Value → Prop) (q : Piece → Prop) (entry : Value × RuleSet) : Prop :=
  Value.KeyOf D entry.1 ∧ entry.2.Laid q

/-- Fields with the rules for them that were read; the fields differ if keys of mappings do. -/
structure Registry.ArePlaced (D : Value → Prop) (q : Piece → Prop)
    (entries : List (Value × RuleSet)) : Prop where
  placed : ∀ entry ∈ entries, Placed D q entry
  distinct : Value.Names D → Keyed.IsDistinct entries

namespace Registry

variable {g : Registry} {D : Value → Prop} {q : Piece → Prop}

@[simp] theorem arePlaced_nil : ArePlaced D q [] := ⟨by simp, fun _ => .nil⟩

/-- What a way of reading gives for descriptions and drafts with a property. -/
def Reading.Sound (reading : Reading) (D : Value → Prop) (q : Piece → Prop) : Prop :=
  (∀ d, D d → Yields (reading.parse d) (RuleSet.Laid q)) ∧
    ∀ d : Draft, D d.description → Yields (reading.finish d) fun rule => ∀ x ∈ rule.pieces, q x

theorem Upholds.laid (upholds : g.Upholds D q) {rules : List Rule}
    (h : ∀ rule ∈ rules, ∀ x ∈ rule.pieces, q x) : RuleSet.Laid q (.mk rules .null) := by
  refine ⟨rfl, fun x hx => ?_⟩
  rcases RuleSet.mem_pieces.1 hx with rfl | ⟨rule, hr, hx⟩
  · exact upholds.set rules
  · exact h rule hr x hx

theorem Upholds.placed (upholds : g.Upholds D q) {serial : Nat} {entries : List (Value × RuleSet)}
    (h : ArePlaced D q entries) : ∀ x ∈ (Validator.fields serial entries).pieces, q x := by
  intro x hx
  rcases List.mem_cons.1 hx with rfl | hx
  · exact upholds.fields _ _ (fun entry he => (h.placed entry he).1) h.distinct
  · obtain ⟨entry, he, hx⟩ := mem_fieldPieces.1 hx
    exact (h.placed entry he).2.2 x hx

/-- The fields that a ruleset has descriptions for. -/
def fieldsOf : Value → List Value
  | .dict entries => entries.map (·.1)
  | _ => []

section Within

variable {pending : List String}
  {deeper : (name : String) → (g.find? name).isSome → ¬ pending.contains name → Reading}

/-- The rule that a name makes of arguments. -/
theorem makeWithin_upholds (upholds : g.Upholds D q)
    (sound : ∀ name known fresh, (deeper name known fresh).Sound D q) (call : Call)
    (h : D call.argument) : Yields (makeWithin g pending deeper call) (Made D q) := by
  have args := Call.forall_arguments upholds.hereditary h
  unfold makeWithin
  split
  · exact .throw trivial
  · next b _ => exact upholds.builtin b _ args
  · next make found =>
    refine (upholds.custom _ make found _ args).bind fun made hm => ?_
    split
    · exact .pure (hm _ rfl)
    · exact .throw trivial
  · next rules override found =>
    obtain ⟨inner, set⟩ := upholds.standsFor _ _ _ found
    split
    · exact .throw trivial
    split
    · exact .throw trivial
    · next fresh =>
      refine ((sound _ _ fresh).1 rules inner).bind fun s hs => .pure ?_
      intro x hx
      rcases List.mem_cons.1 hx with rfl | hx
      · exact upholds.composed _ trivial
      rcases RuleSet.mem_pieces.1 hx with rfl | ⟨rule, hr, hx⟩
      · exact set _
      · exact hs.2 x (RuleSet.mem_pieces.2 (.inr ⟨rule, hr, hx⟩))

/-- The rule that a draft of a name's own is meant to be. -/
theorem finishOwn_upholds (sound : ∀ name known fresh, (deeper name known fresh).Sound D q)
    (name : String) (d : Draft) (h : D d.description) :
    Yields (finishOwn g pending deeper name d) fun rule => ∀ x ∈ rule.pieces, q x := by
  unfold finishOwn
  split
  · split
    · exact .throw trivial
    · next fresh => exact (sound _ _ fresh).2 d h
  · exact .throw trivial

/-- There are rules for each field of a ruleset, in their order. -/
theorem buildWithin_keys (ruleset : Value) :
    Yields (buildWithin g pending deeper ruleset) fun entries =>
      entries.map (·.1) = fieldsOf ruleset := by
  match ruleset with
  | .null => rw [buildWithin]; exact .pure rfl
  | .dict entries =>
    rw [buildWithin_dict]
    refine Ensures.mono (P := List.Forall₂ (fun source entry => source.1 = entry.1) _)
      (.mapM fun entry _ => ?_) (fun built same => ?_) fun _ h => h
    · exact (yields_any _).bind fun _ _ => .pure rfl
    · rw [fieldsOf, ← List.forall₂_eq_eq_eq, List.forall₂_map_left_iff,
        List.forall₂_map_right_iff]
      exact same.flip.imp fun _ _ h => h.symm
  | .bool _ | .int _ | .float _ | .str _ | .brokenStr _ | .bytes _ | .bytearray _ | .items ..
  | .stream .. | .object _ | .other .. => simp only [buildWithin]; exact .throw trivial

theorem isDistinct_of_keys {ruleset : Value} (h : D ruleset) {entries : List (Value × RuleSet)}
    (keys : entries.map (·.1) = fieldsOf ruleset) (names : Value.Names D) :
    Keyed.IsDistinct entries := by
  rw [Keyed.IsDistinct, keys]
  cases ruleset with
  | dict source => exact (names source h).1
  | _ => exact .nil

mutual

theorem parseWithin_upholds (upholds : g.Upholds D q)
    (sound : ∀ name known fresh, (deeper name known fresh).Sound D q) (description : Value)
    (h : D description) : Yields (parseWithin g pending deeper description) (RuleSet.Laid q) := by
  rw [parseWithin_eq]
  refine Ensures.bind (P := List.Forall₂ (fun _ rule => ∀ x ∈ rule.pieces, q x) _)
    (.mapM fun call member => ?_) fun rules hr => .pure ?_
  · cases call with
    | error e => exact .throw trivial
    | ok call =>
      have := Description.argument_weight_lt description member
      exact ruleWithin_upholds upholds sound call
        (Description.argument_of_mem_calls upholds.hereditary description h member)
  · refine upholds.laid fun rule hrule => ?_
    obtain ⟨_, _, hx⟩ := exists_partner hr hrule
    exact hx
termination_by 4 * description.weight

theorem ruleWithin_upholds (upholds : g.Upholds D q)
    (sound : ∀ name known fresh, (deeper name known fresh).Sound D q) (call : Call)
    (h : D call.argument) :
    Yields (ruleWithin g pending deeper call) fun rule => ∀ x ∈ rule.pieces, q x := by
  rw [ruleWithin_eq]
  refine (makeWithin_upholds upholds sound call h).bind fun rule made => ?_
  cases rule with
  | draft d =>
    rw [completeWithin]
    split
    · exact finishWithin_upholds upholds sound d made
    · exact finishOwn_upholds sound call.name d made
  | _ => exact .pure made
termination_by 4 * call.argument.weight + 3

theorem finishWithin_upholds (upholds : g.Upholds D q)
    (sound : ∀ name known fresh, (deeper name known fresh).Sound D q) (d : Draft)
    (h : D d.description) :
    Yields (finishWithin g pending deeper d) fun rule => ∀ x ∈ rule.pieces, q x := by
  cases kind : d.kind with
  | object =>
    rw [finishWithin]
    simp only [kind]
    refine (buildWithin_upholds upholds sound d.description h).bind fun entries he => .pure ?_
    exact List.forall_mem_cons.2 ⟨upholds.composed _ rfl, upholds.placed he⟩
  | objects =>
    rw [finishWithin]
    simp only [kind]
    refine (buildWithin_upholds upholds sound d.description h).bind fun entries he => .pure ?_
    exact List.forall_mem_cons.2 ⟨upholds.composed _ trivial, upholds.placed he⟩
  | list =>
    rw [finishWithin]
    simp only [kind]
    refine (parseWithin_upholds upholds sound d.description h).bind fun s hs => .pure ?_
    exact List.forall_mem_cons.2 ⟨upholds.composed _ trivial, hs.2⟩
  | variants =>
    by_cases mapping : d.description.isMapping
    · obtain ⟨entries, shape⟩ := Value.exists_entries mapping
      rw [finishWithin_variants kind shape]
      refine Ensures.bind
        (P := List.Forall₂ (fun _ case => case.2.isFlat ∧ ∀ x ∈ case.2.pieces, q x) _)
        (.mapM fun entry member => ?_) fun cases hc => .pure ?_
      · have : entry.2.weight < d.description.weight := shape ▸ Value.weight_lt_dict member
        refine (buildWithin_upholds upholds sound entry.2
          (upholds.hereditary.dict (shape ▸ h) _ member)).bind fun entries he => .pure ?_
        exact ⟨rfl, upholds.placed he⟩
      · refine List.forall_mem_cons.2 ⟨upholds.composed _ trivial, ?_⟩
        refine List.forall_mem_cons.2 ⟨upholds.switch _ _ _ fun case member => ?_, fun x hx => ?_⟩
        · obtain ⟨_, _, flat, _⟩ := exists_partner hc member
          exact flat
        obtain ⟨case, member, hx⟩ := mem_casePieces.1 hx
        obtain ⟨_, _, -, hall⟩ := exists_partner hc member
        exact hall x hx
    · rw [finishWithin_noCases kind (by simpa using mapping)]
      exact .throw trivial
  | unknown operator =>
    rw [finishWithin_unknown kind]
    exact Ensures.bind (.lift (fun _ _ => trivial) fun _ _ => trivial) fun _ _ => .throw trivial
termination_by 4 * d.description.weight + 2

theorem buildWithin_upholds (upholds : g.Upholds D q)
    (sound : ∀ name known fresh, (deeper name known fresh).Sound D q) (ruleset : Value)
    (h : D ruleset) :
    Yields (buildWithin g pending deeper ruleset) (ArePlaced D q) := by
  refine Ensures.mono (P := fun entries => (∀ entry ∈ entries, Placed D q entry) ∧
    entries.map (·.1) = fieldsOf ruleset) (.and ?_ (buildWithin_keys ruleset))
    (fun entries ⟨placed, keys⟩ => ⟨placed, isDistinct_of_keys h keys⟩) fun _ h => h
  match ruleset with
  | .null => rw [buildWithin]; exact .pure (by simp)
  | .dict entries =>
    rw [buildWithin_dict]
    refine Ensures.mono (P := List.Forall₂ (fun _ entry => Placed D q entry) _)
      (.mapM fun entry member => ?_) (fun built hb entry he => ?_) fun _ h => h
    · have : entry.2.weight < (Value.dict entries).weight := Value.weight_lt_dict member
      exact (parseWithin_upholds upholds sound entry.2
        (upholds.hereditary.dict h _ member)).bind fun s hs =>
          .pure ⟨⟨entries, h, entry, member, rfl⟩, hs⟩
    · obtain ⟨_, _, hs⟩ := exists_partner hb he
      exact hs
  | .bool _ | .int _ | .float _ | .str _ | .brokenStr _ | .bytes _ | .bytearray _ | .items ..
  | .stream .. | .object _ | .other .. => simp only [buildWithin]; exact .throw trivial
termination_by 4 * ruleset.weight + 1

end

end Within

/-- However many names are being read, what is read has the property. -/
theorem reading_sound (upholds : g.Upholds D q) (pending : List String) :
    (g.reading pending).Sound D q := by
  rw [reading]
  have sound : ∀ name (known : (g.find? name).isSome) (fresh : ¬ pending.contains name),
      (g.reading (name :: pending)).Sound D q := fun name known fresh =>
    have := spare_cons_lt known fresh
    reading_sound upholds (name :: pending)
  exact ⟨parseWithin_upholds upholds sound, finishWithin_upholds upholds sound⟩
termination_by g.spare pending

theorem parse_upholds (upholds : g.Upholds D q) {description : Value} (h : D description) :
    Yields (g.parse description) (RuleSet.Laid q) :=
  parseWithin_upholds upholds (fun name _ _ => reading_sound upholds [name]) description h

theorem finish_upholds (upholds : g.Upholds D q) {d : Draft} (h : D d.description) :
    Yields (g.finish d) fun rule => ∀ x ∈ rule.pieces, q x :=
  finishWithin_upholds upholds (fun name _ _ => reading_sound upholds [name]) d h

/-- All pieces of a validator have the property if those of the declared fields do. -/
theorem build_upholds (upholds : g.Upholds D q) {declared : List (Value × RuleSet)}
    (laid : ArePlaced D q declared) {ruleset : Value} (h : D ruleset) :
    Yields (g.build declared ruleset) fun v => ∀ x ∈ v.pieces, q x := by
  have sound := fun name (_ : (g.find? name).isSome) (_ : ¬ [].contains name) =>
    reading_sound upholds [name]
  refine (buildWithin_upholds upholds sound ruleset h).bind fun entries he => .pure ?_
  refine upholds.placed ⟨fun entry member => ⟨?_, ?_⟩, fun names => ?_⟩
  · have key : entry.1 ∈ declared.map (·.1) ++ entries.map (·.1) :=
      (Keyed.keys_putAll declared entries).subset (List.mem_map_of_mem member)
    rw [← List.map_append] at key
    obtain ⟨source, hs, same⟩ := List.mem_map.1 key
    rcases List.mem_append.1 hs with old | new
    · exact same ▸ (laid.placed source old).1
    · exact same ▸ (he.placed source new).1
  · obtain ⟨source, old | new, same⟩ : ∃ source, (source ∈ declared ∨ source ∈ entries) ∧
        source.2 = entry.2 := by simpa using Keyed.mem_putAll member
    · exact same ▸ (laid.placed source old).2
    · exact same ▸ (he.placed source new).2
  · refine Keyed.isDistinct_putAll (laid.distinct names) fun entry member => ?_
    obtain ⟨source, given, known, inside, same⟩ := (he.placed entry member).1
    exact same ▸ (names source given).2 known inside

/-- The fields of a validator without declared ones are fields of its ruleset, in their order. -/
theorem build_fields (ruleset : Value) :
    Yields (g.build [] ruleset) fun v =>
      ∃ entries, v = .fields 0 entries ∧ (entries.map (·.1)).Sublist (fieldsOf ruleset) := by
  refine (buildWithin_keys ruleset).bind fun entries he => .pure ⟨_, rfl, ?_⟩
  simpa [he] using Keyed.keys_putAll [] entries

/-- The rules for the fields of a mapping, no two of which are the same, are all kept. -/
theorem build_distinct {source : List (Value × Value)} (distinct : Keyed.IsDistinct source) :
    g.build [] (.dict source) =
      Validator.fields 0 <$> buildWithin g [] (g.deeper []) (.dict source) := by
  rw [build, ← bind_pure_comp]
  refine (buildWithin_keys (.dict source)).bind_congr fun entries keys => ?_
  have kept : Keyed.IsDistinct entries := by
    rw [Keyed.IsDistinct, keys]
    exact distinct
  rw [Keyed.putAll_nil kept]

/-- A validator has rules for exactly the fields of such a mapping. -/
theorem build_keys {source : List (Value × Value)} (distinct : Keyed.IsDistinct source) :
    Yields (g.build [] (.dict source)) fun v =>
      ∃ entries, v = .fields 0 entries ∧ entries.map (·.1) = source.map (·.1) := by
  rw [build_distinct distinct]
  exact .map ((buildWithin_keys (.dict source)).mono (fun entries keys => ⟨entries, rfl, keys⟩)
    fun _ _ => trivial)

end Registry

end RecordCheck
