import RecordCheck.Error
import RecordCheck.Proofs.Reaches

/-!
# Values that have a text

Only whole numbers of too many digits have no text. A value without such numbers has a text, and so
has everything that can be reached from it by reading fields and going through entries.

## Main definitions

* `Value.isWritable`: no whole number in a value has too many digits.

## Main statements

* `Value.textOf_ok`: a value without such numbers has a text.
* `Value.Reaches.isWritable`: what is found in it has none either.
-/
set_option autoImplicit false

namespace RecordCheck.Value

mutual

/-- Whether no whole number in a value has too many digits. -/
def isWritable : Value → Bool
  | .int n => (integerText? n).isSome
  | .items _ entries | .stream _ entries => areWritable entries
  | .object attributes => attributesWritable attributes
  | .dict entries => entriesWritable entries
  | _ => true

def areWritable : List Value → Bool
  | [] => true
  | v :: vs => v.isWritable && areWritable vs

def attributesWritable : List (String × Value) → Bool
  | [] => true
  | (_, v) :: rest => v.isWritable && attributesWritable rest

def entriesWritable : List (Value × Value) → Bool
  | [] => true
  | (k, v) :: rest => k.isWritable && v.isWritable && entriesWritable rest

end

theorem areWritable_iff {vs : List Value} : areWritable vs ↔ ∀ v ∈ vs, v.isWritable := by
  induction vs with
  | nil => simp [areWritable]
  | cons v vs ih => simp [areWritable, ih]

theorem attributesWritable_iff {attributes : List (String × Value)} :
    attributesWritable attributes ↔ ∀ a ∈ attributes, a.2.isWritable := by
  induction attributes with
  | nil => simp [attributesWritable]
  | cons a rest ih => simp [attributesWritable, ih]

theorem entriesWritable_iff {entries : List (Value × Value)} :
    entriesWritable entries ↔ ∀ e ∈ entries, e.1.isWritable ∧ e.2.isWritable := by
  induction entries with
  | nil => simp [entriesWritable]
  | cons e rest ih => simp [entriesWritable, ih, and_assoc]

/-! ## Texts -/

mutual

theorem quoted?_isSome : (v : Value) → v.isWritable → v.quoted?.isSome
  | .int _, h => h
  | .items .list entries, h | .items .tuple entries, h | .items .set entries, h
  | .items .frozenset entries, h => by
    simpa [quoted?] using quotedItems?_isSome entries (by simpa [isWritable] using h)
  | .object attributes, h => by
    simpa [quoted?] using quotedAttributes?_isSome attributes (by simpa [isWritable] using h)
  | .dict entries, h => by
    simpa [quoted?] using quotedEntries?_isSome entries (by simpa [isWritable] using h)
  | .null, _ | .bool _, _ | .float _, _ | .str _, _ | .brokenStr _, _ | .bytes _, _
  | .bytearray _, _ | .stream .., _ | .other .., _ => by simp [quoted?]

theorem quotedItems?_isSome : (vs : List Value) → areWritable vs → (quotedItems? vs).isSome
  | [], _ => rfl
  | v :: vs, h => by
    rw [areWritable, Bool.and_eq_true] at h
    obtain ⟨t, ht⟩ := Option.isSome_iff_exists.1 (quoted?_isSome v h.1)
    obtain ⟨ts, hts⟩ := Option.isSome_iff_exists.1 (quotedItems?_isSome vs h.2)
    simp [quotedItems?, ht, hts]

theorem quotedAttributes?_isSome :
    (as : List (String × Value)) → attributesWritable as → (quotedAttributes? as).isSome
  | [], _ => rfl
  | (name, v) :: rest, h => by
    rw [attributesWritable, Bool.and_eq_true] at h
    obtain ⟨t, ht⟩ := Option.isSome_iff_exists.1 (quoted?_isSome v h.1)
    obtain ⟨ts, hts⟩ := Option.isSome_iff_exists.1 (quotedAttributes?_isSome rest h.2)
    simp [quotedAttributes?, ht, hts]

theorem quotedEntries?_isSome :
    (es : List (Value × Value)) → entriesWritable es → (quotedEntries? es).isSome
  | [], _ => rfl
  | (k, v) :: rest, h => by
    rw [entriesWritable, Bool.and_eq_true, Bool.and_eq_true] at h
    obtain ⟨s, hs⟩ := Option.isSome_iff_exists.1 (quoted?_isSome k h.1.1)
    obtain ⟨t, ht⟩ := Option.isSome_iff_exists.1 (quoted?_isSome v h.1.2)
    obtain ⟨ts, hts⟩ := Option.isSome_iff_exists.1 (quotedEntries?_isSome rest h.2)
    simp [quotedEntries?, hs, ht, hts]

end

theorem textOf_ok {v : Value} (h : v.isWritable) : ∃ text, Error.textOf v = .ok text := by
  have some : v.text?.isSome := by
    unfold text?
    split
    · rfl
    · exact quoted?_isSome v h
  obtain ⟨text, ht⟩ := Option.isSome_iff_exists.1 some
  exact ⟨text, by simp [Error.textOf, ht]⟩

/-! ## What is found in a value -/

theorem handedOn_isWritable : HandedOn fun v => v.isWritable where
  null := rfl
  str _ := rfl
  other _ _ := rfl
  listed {v w} h member := by
    cases v with
    | items _ entries | stream _ entries =>
      rw [isWritable] at h
      exact areWritable_iff.1 h w member
    | _ => cases member
  dict h entry member := by
    rw [isWritable] at h
    exact (entriesWritable_iff.1 h entry member).2
  object h entry member := by
    rw [isWritable] at h
    exact attributesWritable_iff.1 h entry member
  attributes h := by
    rw [isWritable] at h
    rw [isWritable, entriesWritable_iff]
    intro entry member
    obtain ⟨a, ha, rfl⟩ := List.mem_map.1 member
    exact ⟨rfl, attributesWritable_iff.1 h a ha⟩

theorem isWritable_of_mem_listed {v w : Value} (h : v.isWritable) (hw : w ∈ v.listed) :
    w.isWritable :=
  handedOn_isWritable.listed h hw

theorem isWritable_field {record name v : Value} (h : record.isWritable)
    (isRecord : record.isRecord) (read : record.field? name = some v) : v.isWritable :=
  handedOn_isWritable.field h isRecord read

/-- What is found in a value without too long numbers has none either. -/
theorem Reaches.isWritable {v w : Value} (reached : v.Reaches w) (h : v.isWritable) :
    w.isWritable :=
  handedOn_isWritable.reaches reached h

end RecordCheck.Value
