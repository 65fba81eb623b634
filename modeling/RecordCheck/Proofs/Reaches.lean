import RecordCheck.Proofs.Keyed
import RecordCheck.Value.Field

/-!
# What is found in a value

Rules for nested records and for lists go from a value to its fields and entries. What holds of a
value and is handed on to its parts holds of all that can be found in it.

## Main definitions

* `Value.Reaches`: what is found in a value by reading fields and going through entries.
* `Value.HandedOn`: a property that values hand on to their parts.

## Main statements

* `Value.HandedOn.field`, `Value.HandedOn.reaches`: it holds of fields, and of all that is found.
* `Value.Reaches.isSteady`: no stream is found in a value without streams.
-/
set_option autoImplicit false

namespace RecordCheck.Value

/-- The entries of a list-like value; for a stream, all that it was made with. -/
def listed : Value → List Value
  | .items _ entries | .stream _ entries => entries
  | _ => []

/-- What is found in a value by reading fields of records and going through the entries of lists. -/
inductive Reaches : Value → Value → Prop
  | refl (v : Value) : Reaches v v
  | field {record name v w : Value} :
    record.isRecord → record.field? name = some v → Reaches v w → Reaches record w
  | entry {v w x : Value} : w ∈ v.listed → Reaches w x → Reaches v x

/-- A property that values hand on to their entries and to the values of their fields. Beside those
there are the attributes that every value of a kind has, and null for what is missing. -/
structure HandedOn (P : Value → Prop) : Prop where
  null : P .null
  str (s : String) : P (.str s)
  other (type text : String) : P (.other type text)
  listed {v w : Value} : P v → w ∈ v.listed → P w
  dict {entries : List (Value × Value)} : P (.dict entries) → ∀ entry ∈ entries, P entry.2
  object {attributes : List (String × Value)} : P (.object attributes) →
    ∀ entry ∈ attributes, P entry.2
  attributes {attributes : List (String × Value)} : P (.object attributes) →
    P (.dict (attributes.map fun entry => (.str entry.1, entry.2)))

namespace HandedOn

variable {P : Value → Prop} (handedOn : HandedOn P)
include handedOn

theorem ofKindAttribute {kind : Kind} {name : String} {v : Value}
    (h : kindAttribute? kind name = some v) : P v := by
  unfold kindAttribute? at h
  split at h
  · cases h
    exact handedOn.other _ _
  split at h
  · obtain ⟨text, -, rfl⟩ := Option.map_eq_some_iff.1 h
    exact handedOn.str text
  split at h
  · cases h
    exact handedOn.other _ _
  split at h
  · cases h
    exact handedOn.other _ _
  · cases h

theorem ofAttribute {attributes : List (String × Value)} {name : String} {v : Value}
    (h : P (.object attributes)) (read : (Value.object attributes).attribute? name = some v) :
    P v := by
  rw [attribute?] at read
  split at read
  · exact handedOn.ofKindAttribute read
  split at read
  · cases read
    exact handedOn.attributes h
  · rcases Option.or_eq_some_iff.1 read with given | ⟨-, byKind⟩
    · exact handedOn.object h (name, v) (Keyed.mem_of_lookup given)
    · exact handedOn.ofKindAttribute byKind

/-- What holds of a record holds of its fields. -/
theorem field {record name v : Value} (h : P record) (isRecord : record.isRecord)
    (read : record.field? name = some v) : P v := by
  have missing {found : Option Value} (each : ∀ w, found = some w → P w) :
      P (found.getD .null) := by
    cases found with
    | none => exact handedOn.null
    | some w => exact each w rfl
  cases record with
  | dict entries =>
    simp only [field?, Option.ite_none_right_eq_some, Option.some.injEq] at read
    refine read.2 ▸ missing fun w found => ?_
    obtain ⟨k, member⟩ := Keyed.mem_of_find? found
    exact handedOn.dict h _ member
  | object attributes =>
    cases name with
    | str s =>
      cases read
      exact missing fun w found => handedOn.ofAttribute h found
    | brokenStr _ =>
      cases read
      exact handedOn.null
    | _ => cases read
  | stream | other =>
    cases name with
    | str s =>
      cases read
      refine missing fun w found => ?_
      exact handedOn.ofKindAttribute (by simpa [attribute?, numberPart?] using found)
    | brokenStr _ =>
      cases read
      exact handedOn.null
    | _ => cases read
  | _ => cases isRecord

/-- What holds of a value holds of all that is found in it. -/
theorem reaches {v w : Value} (reached : v.Reaches w) (h : P v) : P w := by
  induction reached with
  | refl => exact h
  | field isRecord read _ ih => exact ih (handedOn.field h isRecord read)
  | entry member _ ih => exact ih (handedOn.listed h member)

end HandedOn

/-! ## Values without streams -/

theorem areSteady_iff {vs : List Value} : areSteady vs ↔ ∀ v ∈ vs, v.isSteady := by
  induction vs with
  | nil => simp [areSteady]
  | cons v vs ih => simp [areSteady, ih]

theorem attributesSteady_iff {attributes : List (String × Value)} :
    attributesSteady attributes ↔ ∀ a ∈ attributes, a.2.isSteady := by
  induction attributes with
  | nil => simp [attributesSteady]
  | cons a rest ih => simp [attributesSteady, ih]

theorem entriesSteady_iff {entries : List (Value × Value)} :
    entriesSteady entries ↔ ∀ e ∈ entries, e.1.isSteady ∧ e.2.isSteady := by
  induction entries with
  | nil => simp [entriesSteady]
  | cons e rest ih => simp [entriesSteady, ih, and_assoc]

theorem handedOn_isSteady : HandedOn fun v => v.isSteady where
  null := rfl
  str _ := rfl
  other _ _ := rfl
  listed {v w} h member := by
    cases v with
    | items _ entries =>
      rw [isSteady] at h
      exact areSteady_iff.1 h w member
    | stream => cases h
    | _ => cases member
  dict h entry member := by
    rw [isSteady] at h
    exact (entriesSteady_iff.1 h entry member).2
  object h entry member := by
    rw [isSteady] at h
    exact attributesSteady_iff.1 h entry member
  attributes h := by
    rw [isSteady] at h
    rw [isSteady, entriesSteady_iff]
    intro entry member
    obtain ⟨a, ha, rfl⟩ := List.mem_map.1 member
    exact ⟨rfl, attributesSteady_iff.1 h a ha⟩

/-- No stream is found in a value without streams. -/
theorem Reaches.isSteady {v w : Value} (reached : v.Reaches w) (h : v.isSteady) : w.isSteady :=
  handedOn_isSteady.reaches reached h

end RecordCheck.Value
