import Mathlib.Data.List.Forall2
import RecordCheck.Value.Equality

/-!
# Values that are the same

What is the same as one value is the same as any other that is the same as that one. Where the kinds
agree too, or where only the number counts that values stand for, nothing tells the two apart.

## Main definitions

* `Value.Same`: the ways in which two values are the same.
* `Value.Agrees`: one value, or the same in kind and value.

## Main statements

* `Value.same_trans`: sameness is transitive.
* `Value.strictlySame_congr`, `Value.members?_congr`: values that are the same stand for the same.
-/
set_option autoImplicit false

namespace RecordCheck

namespace Number

theorem same_iff {a b : Number} : a.same b ↔ ∃ x, a.value = some x ∧ b.value = some x := by
  unfold same
  cases a.value with
  | none => simp
  | some x =>
    cases b.value with
    | none => simp
    | some y => exact ⟨fun h => ⟨y, by simpa using h, rfl⟩, fun ⟨z, one, two⟩ => by simp_all⟩

theorem value_eq_of_same {a b : Number} (same : a.same b) : a.value = b.value := by
  obtain ⟨x, one, two⟩ := same_iff.1 same
  rw [one, two]

theorem same_trans {a b c : Number} (one : a.same b) (two : b.same c) : a.same c := by
  obtain ⟨x, own, other⟩ := same_iff.1 one
  exact same_iff.2 ⟨x, own, value_eq_of_same two ▸ other⟩

/-- Whole numbers are in the order of the integers. -/
theorem int_lt_int (m n : Int) : (int m).lt (.int n) = decide (m < n) := by
  have unit : 0 < Binary64.one := by decide +kernel
  exact decide_eq_decide.2 (Int.mul_lt_mul_right (Int.natCast_pos.2 unit))

/-- Only the place on the number line counts. -/
theorem lt_congr {a b : Number} (same : a.value = b.value) (n : Number) :
    a.lt n = b.lt n ∧ n.lt a = n.lt b := by
  unfold lt
  rw [same]
  exact ⟨rfl, rfl⟩

end Number

namespace Value

variable {u v w x y z : Value} {xs ys zs : List Value}

theorem eq_of_isOneNaN (h : isOneNaN v w) : v = w := by
  unfold isOneNaN at h
  split at h
  · simp_all
  · cases h

theorem alike_iff : v.alike w ↔ isOneNaN v w ∨ v.same w := by
  rw [alike, Bool.or_eq_true]

theorem eq_or_same (h : v.alike w) : v = w ∨ v.same w := (alike_iff.1 h).imp_left eq_of_isOneNaN

/-- The ways in which two values are the same. -/
inductive Same : Value → Value → Prop
  | null : Same .null .null
  | str (s : String) : Same (.str s) (.str s)
  | brokenStr (codes : List Nat) : Same (.brokenStr codes) (.brokenStr codes)
  | stream {m : Nat} (xs ys : List Value) : m ≠ 0 → Same (.stream m xs) (.stream m ys)
  | bytes {v w : Value} {data : List UInt8} : v = .bytes data ∨ v = .bytearray data →
      w = .bytes data ∨ w = .bytearray data → Same v w
  | number {v w : Value} {a b : Number} : v.number? = some a → w.number? = some b → a.same b →
      Same v w
  | list {xs ys : List Value} : sameSequence xs ys → Same (.list xs) (.list ys)
  | tuple {xs ys : List Value} : sameSequence xs ys → Same (.tuple xs) (.tuple ys)
  | members {c d : Container} {xs ys : List Value} : c = .set ∨ c = .frozenset →
      d = .set ∨ d = .frozenset → xs.length = ys.length → sameMembers xs ys →
        Same (.items c xs) (.items d ys)
  | object {as bs : List (String × Value)} : as.length = bs.length → sameAttributes as bs →
      Same (.object as) (.object bs)
  | dict {es fs : List (Value × Value)} : es.length = fs.length → sameEntries es fs →
      Same (.dict es) (.dict fs)

theorem sameNumber_iff {a : Number} : sameNumber a w ↔ ∃ b, w.number? = some b ∧ a.same b := by
  unfold sameNumber
  cases w.number? <;> simp

theorem same_of_number {a b : Number} (one : v.number? = some a) (two : w.number? = some b)
    (same : a.same b) : v.same w := by
  cases v with
  | bool | int | float =>
    cases one
    rw [Value.same]
    · exact sameNumber_iff.2 ⟨b, two, same⟩
  | _ => cases one

theorem same_of_int {n : Int} (one : v.number? = some (.int n))
    (two : w.number? = some (.int n)) : v.same w :=
  same_of_number one two (Number.same_iff.2 ⟨_, rfl, rfl⟩)

theorem same_iff : v.same w ↔ Same v w := by
  constructor
  · intro h
    fun_cases Value.same v w <;>
      simp only [Value.same, Bool.and_eq_true, beq_iff_eq, bne_iff_ne, ne_eq] at h
    case case1 => exact .null
    case case2 => exact h ▸ .str _
    case case3 => exact h ▸ .brokenStr _
    case case4 => exact h.1 ▸ .stream _ _ h.2
    case case5 => exact h ▸ .bytes (.inl rfl) (.inl rfl)
    case case6 => exact h ▸ .bytes (.inl rfl) (.inr rfl)
    case case7 => exact h ▸ .bytes (.inr rfl) (.inl rfl)
    case case8 => exact h ▸ .bytes (.inr rfl) (.inr rfl)
    case case9 => exact .list h
    case case10 => exact .tuple h
    case case11 => exact .members (.inl rfl) (.inl rfl) h.1 h.2
    case case12 => exact .members (.inl rfl) (.inr rfl) h.1 h.2
    case case13 => exact .members (.inr rfl) (.inl rfl) h.1 h.2
    case case14 => exact .members (.inr rfl) (.inr rfl) h.1 h.2
    case case15 => exact .object h.1 h.2
    case case16 => exact .dict h.1 h.2
    case case17 | case18 | case19 =>
      obtain ⟨b, number, same⟩ := sameNumber_iff.1 h
      exact .number rfl number same
    case case20 => cases h
  · intro h
    cases h with
    | number one two same => exact same_of_number one two same
    | bytes one two => rcases one with rfl | rfl <;> rcases two with rfl | rfl <;> simp [Value.same]
    | members one two length inside =>
      rcases one with rfl | rfl <;> rcases two with rfl | rfl <;> simp [Value.same, length, inside]
    | _ => simp_all [Value.same]

section Shapes

/-! ### What a value of a known shape is the same as -/

theorem number_of_same {a : Number} (own : v.number? = some a) (h : v.same w) :
    ∃ b, w.number? = some b ∧ a.same b := by
  cases v with
  | bool | int | float =>
    cases own
    rw [Value.same] at h
    · exact sameNumber_iff.1 h
  | _ => cases own

theorem eq_of_same_str {s : String} (h : (str s).same w) : w = .str s := by
  cases same_iff.1 h with
  | str => rfl
  | number own => cases own
  | bytes own => rcases own with own | own <;> cases own

theorem eq_of_same_brokenStr {codes : List Nat} (h : (brokenStr codes).same w) :
    w = .brokenStr codes := by
  cases same_iff.1 h with
  | brokenStr => rfl
  | number own => cases own
  | bytes own => rcases own with own | own <;> cases own

theorem eq_null_of_null_same (h : null.same w) : w = .null := by
  cases same_iff.1 h with
  | null => rfl
  | number own => cases own
  | bytes own => rcases own with own | own <;> cases own

theorem eq_null_of_same_null (h : v.same .null) : v = .null := by
  cases same_iff.1 h with
  | null => rfl
  | number _ other => cases other
  | bytes _ other => rcases other with other | other <;> cases other

theorem stream_of_same {m : Nat} (h : (stream m xs).same w) : m ≠ 0 ∧ ∃ ys, w = .stream m ys := by
  cases same_iff.1 h with
  | stream _ ys other => exact ⟨other, ys, rfl⟩
  | number own => cases own
  | bytes own => rcases own with own | own <;> cases own

theorem bytes_of_same {data : List UInt8} (own : v = .bytes data ∨ v = .bytearray data)
    (h : v.same w) : w = .bytes data ∨ w = .bytearray data := by
  rcases own with rfl | rfl
  all_goals
    cases same_iff.1 h with
    | number own => cases own
    | bytes own other =>
      simp_all

theorem list_of_same (h : (list xs).same w) : ∃ ys, w = .list ys ∧ sameSequence xs ys := by
  cases same_iff.1 h with
  | list inside => exact ⟨_, rfl, inside⟩
  | members own => rcases own with own | own <;> cases own
  | number own => cases own
  | bytes own => rcases own with own | own <;> cases own

theorem tuple_of_same (h : (tuple xs).same w) : ∃ ys, w = .tuple ys ∧ sameSequence xs ys := by
  cases same_iff.1 h with
  | tuple inside => exact ⟨_, rfl, inside⟩
  | members own => rcases own with own | own <;> cases own
  | number own => cases own
  | bytes own => rcases own with own | own <;> cases own

theorem members_of_same {c : Container} (set : c = .set ∨ c = .frozenset)
    (h : (items c xs).same w) : ∃ d ys, w = .items d ys ∧ (d = .set ∨ d = .frozenset) ∧
      xs.length = ys.length ∧ sameMembers xs ys := by
  cases same_iff.1 h with
  | list | tuple => rcases set with own | own <;> cases own
  | members _ other length inside => exact ⟨_, _, rfl, other, length, inside⟩
  | number own => cases own
  | bytes own => rcases own with own | own <;> cases own

theorem object_of_same {as : List (String × Value)} (h : (object as).same w) :
    ∃ bs, w = .object bs ∧ as.length = bs.length ∧ sameAttributes as bs := by
  cases same_iff.1 h with
  | object length inside => exact ⟨_, rfl, length, inside⟩
  | number own => cases own
  | bytes own => rcases own with own | own <;> cases own

theorem dict_of_same {es : List (Value × Value)} (h : (dict es).same w) :
    ∃ fs, w = .dict fs ∧ es.length = fs.length ∧ sameEntries es fs := by
  cases same_iff.1 h with
  | dict length inside => exact ⟨_, rfl, length, inside⟩
  | number own => cases own
  | bytes own => rcases own with own | own <;> cases own

theorem not_same_other {name text : String} : (other name text).same w = false := by
  simp [Value.same]

end Shapes

/-! ## Transitivity -/

theorem sameMembers_iff : sameMembers xs ys ↔ ∀ x ∈ xs, ∃ y ∈ ys, x.alike y := by
  induction xs with
  | nil => simp [sameMembers]
  | cons x xs ih => simp [sameMembers, ih, alike]

theorem sameSequence_iff : sameSequence xs ys ↔ List.Forall₂ (fun x y => x.alike y) xs ys := by
  induction xs generalizing ys with
  | nil => cases ys <;> simp [sameSequence]
  | cons x xs ih => cases ys <;> simp [sameSequence, ih, alike]

theorem sameAttributes_iff {as bs : List (String × Value)} :
    sameAttributes as bs ↔ ∀ a ∈ as, ∃ b ∈ bs, a.1 = b.1 ∧ a.2.alike b.2 := by
  induction as with
  | nil => simp [sameAttributes]
  | cons a as ih =>
    obtain ⟨name, v⟩ := a
    rw [sameAttributes, Bool.and_eq_true, ih]
    simp [alike]

theorem sameEntries_iff {es fs : List (Value × Value)} :
    sameEntries es fs ↔ ∀ e ∈ es, ∃ f ∈ fs, e.1.alike f.1 ∧ e.2.alike f.2 := by
  induction es with
  | nil => simp [sameEntries]
  | cons e es ih =>
    obtain ⟨k, v⟩ := e
    rw [sameEntries, Bool.and_eq_true, ih]
    simp [alike]

/-- What is the same as a value is the same as whatever that value is the same as. -/
def Leads (u : Value) : Prop := ∀ v w : Value, u.same v → v.same w → u.same w

theorem Leads.alike (leads : x.Leads) (one : x.alike y) (two : y.alike z) : x.alike z := by
  rcases alike_iff.1 one with nan | one
  · exact eq_of_isOneNaN nan ▸ two
  rcases eq_or_same two with rfl | two
  · exact alike_iff.2 (.inr one)
  · exact alike_iff.2 (.inr (leads y z one two))

theorem sameSequence_trans (leads : ∀ x ∈ xs, x.Leads) (one : sameSequence xs ys)
    (two : sameSequence ys zs) : sameSequence xs zs := by
  rw [sameSequence_iff] at one two ⊢
  induction one generalizing zs with
  | nil => exact two
  | cons first _ ih =>
    obtain ⟨z, rest, second, others, rfl⟩ := List.forall₂_cons_left_iff.1 two
    have ⟨own, inner⟩ := List.forall_mem_cons.1 leads
    exact .cons (own.alike first second) (ih inner others)

theorem sameMembers_trans (leads : ∀ x ∈ xs, x.Leads) (one : sameMembers xs ys)
    (two : sameMembers ys zs) : sameMembers xs zs := by
  rw [sameMembers_iff] at one two ⊢
  intro x member
  obtain ⟨y, between, first⟩ := one x member
  obtain ⟨z, found, second⟩ := two y between
  exact ⟨z, found, (leads x member).alike first second⟩

theorem sameAttributes_trans {as bs cs : List (String × Value)} (leads : ∀ a ∈ as, a.2.Leads)
    (one : sameAttributes as bs) (two : sameAttributes bs cs) : sameAttributes as cs := by
  rw [sameAttributes_iff] at one two ⊢
  intro a member
  obtain ⟨b, between, name, first⟩ := one a member
  obtain ⟨c, found, name', second⟩ := two b between
  exact ⟨c, found, name.trans name', (leads a member).alike first second⟩

theorem sameEntries_trans {es fs gs : List (Value × Value)}
    (leads : ∀ e ∈ es, e.1.Leads ∧ e.2.Leads) (one : sameEntries es fs)
    (two : sameEntries fs gs) : sameEntries es gs := by
  rw [sameEntries_iff] at one two ⊢
  intro e member
  obtain ⟨f, between, key, first⟩ := one e member
  obtain ⟨g, found, key', second⟩ := two f between
  exact ⟨g, found, (leads e member).1.alike key key', (leads e member).2.alike first second⟩

theorem leads_of_number {a : Number} (own : u.number? = some a) : u.Leads := by
  intro v w one two
  obtain ⟨b, between, first⟩ := number_of_same own one
  obtain ⟨c, found, second⟩ := number_of_same between two
  exact same_of_number own found (Number.same_trans first second)

theorem leads_of_bytes {data : List UInt8} (own : u = .bytes data ∨ u = .bytearray data) :
    u.Leads := fun _ _ one two =>
  same_iff.2 (.bytes own (bytes_of_same (bytes_of_same own one) two))

theorem leads_of_members {c : Container} (set : c = .set ∨ c = .frozenset)
    (leads : ∀ x ∈ xs, x.Leads) : (items c xs).Leads := by
  intro v w one two
  obtain ⟨_, ys, rfl, set', length, first⟩ := members_of_same set one
  obtain ⟨_, zs, rfl, set'', length', second⟩ := members_of_same set' two
  exact same_iff.2 (.members set set'' (length.trans length')
    (sameMembers_trans leads first second))

mutual

theorem leads : (u : Value) → u.Leads
  | .null => fun _ _ one two => eq_null_of_null_same one ▸ two
  | .str _ => fun _ _ one two => eq_of_same_str one ▸ two
  | .brokenStr _ => fun _ _ one two => eq_of_same_brokenStr one ▸ two
  | .bool _ | .int _ | .float _ => leads_of_number rfl
  | .bytes _ => leads_of_bytes (.inl rfl)
  | .bytearray _ => leads_of_bytes (.inr rfl)
  | .other .. => fun _ _ one => by simp [not_same_other] at one
  | .stream m xs => fun _ _ one two => by
    obtain ⟨other, ys, rfl⟩ := stream_of_same one
    obtain ⟨-, zs, rfl⟩ := stream_of_same two
    exact same_iff.2 (.stream xs zs other)
  | .items .list xs => fun _ _ one two => by
    obtain ⟨ys, rfl, first⟩ := list_of_same one
    obtain ⟨zs, rfl, second⟩ := list_of_same two
    exact same_iff.2 (.list (sameSequence_trans (areLeads xs) first second))
  | .items .tuple xs => fun _ _ one two => by
    obtain ⟨ys, rfl, first⟩ := tuple_of_same one
    obtain ⟨zs, rfl, second⟩ := tuple_of_same two
    exact same_iff.2 (.tuple (sameSequence_trans (areLeads xs) first second))
  | .items .set xs => leads_of_members (.inl rfl) (areLeads xs)
  | .items .frozenset xs => leads_of_members (.inr rfl) (areLeads xs)
  | .object as => fun _ _ one two => by
    obtain ⟨bs, rfl, length, first⟩ := object_of_same one
    obtain ⟨cs, rfl, length', second⟩ := object_of_same two
    exact same_iff.2 (.object (length.trans length')
      (sameAttributes_trans (attributesLead as) first second))
  | .dict es => fun _ _ one two => by
    obtain ⟨fs, rfl, length, first⟩ := dict_of_same one
    obtain ⟨gs, rfl, length', second⟩ := dict_of_same two
    exact same_iff.2 (.dict (length.trans length')
      (sameEntries_trans (entriesLead es) first second))

theorem areLeads : (vs : List Value) → ∀ v ∈ vs, v.Leads
  | v :: vs, w, member => by
    rcases List.mem_cons.1 member with same | member
    · exact same ▸ leads v
    · exact areLeads vs w member

theorem attributesLead : (as : List (String × Value)) → ∀ a ∈ as, a.2.Leads
  | (_, v) :: as, b, member => by
    rcases List.mem_cons.1 member with rfl | member
    · exact leads v
    · exact attributesLead as b member

theorem entriesLead : (es : List (Value × Value)) → ∀ e ∈ es, e.1.Leads ∧ e.2.Leads
  | (k, v) :: es, e, member => by
    rcases List.mem_cons.1 member with rfl | member
    · exact ⟨leads k, leads v⟩
    · exact entriesLead es e member

end

/-- Sameness is transitive. -/
theorem same_trans (one : u.same v) (two : v.same w) : u.same w := leads u v w one two

/-! ## What values that are the same have in common -/

/-- One value, or two that are the same. -/
def Twin (v w : Value) : Prop := v = w ∨ v.same w

/-- One value, or two that are the same in kind and value. -/
def Agrees (v w : Value) : Prop := v = w ∨ v.strictlySame w

theorem twin_of_alike (h : v.alike w) : v.Twin w := (alike_iff.1 h).imp_left eq_of_isOneNaN

theorem Agrees.twin (h : v.Agrees w) : v.Twin w :=
  h.imp_right fun same => (Bool.and_eq_true _ _ ▸ same : _ ∧ _).2

/-- A value is the same as both of two that are the same as each other, or as neither. -/
theorem same_congr (one : x.Twin y) (two : y.Twin x) (v : Value) : v.same x = v.same y := by
  rcases one with rfl | one
  · rfl
  rcases two with rfl | two
  · rfl
  exact Bool.eq_iff_iff.2 ⟨fun h => same_trans h one, fun h => same_trans h two⟩

theorem number?_congr (h : x.Twin y) :
    Option.Rel (fun a b => a.value = b.value) x.number? y.number? := by
  rcases h with rfl | h
  · cases x.number? with
    | none => exact .none
    | some a => exact .some rfl
  cases same_iff.1 h with
  | number own other same => rw [own, other]; exact .some (Number.value_eq_of_same same)
  | bytes own other => rcases own with rfl | rfl <;> rcases other with rfl | rfl <;> exact .none
  | _ => exact .none

theorem isScalar_congr (h : x.Twin y) : x.isScalar = y.isScalar := by
  rcases h with rfl | h
  · rfl
  cases same_iff.1 h with
  | number own other => cases x <;> cases own <;> cases y <;> cases other <;> rfl
  | bytes own other => rcases own with rfl | rfl <;> rcases other with rfl | rfl <;> rfl
  | _ => rfl

theorem isScalar_of_kind (kind : x.kind = y.kind) : x.isScalar = y.isScalar := by
  cases x <;> cases y <;> first | rfl | cases kind

/-- A scalar agrees with both of two values of one kind that are the same, or with neither. -/
theorem strictlySame_congr (scalar : v.isScalar) (one : x.Twin y) (two : y.Twin x)
    (kinds : x.isScalar → x.kind = y.kind) : v.strictlySame x = v.strictlySame y := by
  by_cases plain : x.isScalar
  · rw [strictlySame, strictlySame, kinds plain, same_congr one two]
  · have other {z : Value} (shape : ¬ z.isScalar) : v.strictlySame z = false := by
      rw [strictlySame, Bool.and_eq_false_iff, beq_eq_false_iff_ne]
      exact .inl fun kind => shape (isScalar_of_kind kind ▸ scalar)
    rw [other plain, other (isScalar_congr one ▸ plain)]

/-! ### Members -/

/-- Whether the members of a value come in an order that counts. -/
def isOrdered : Value → Bool
  | .items .set _ | .items .frozenset _ | .dict _ => false
  | _ => true

theorem members?_of_number {a : Number} (own : v.number? = some a) : v.members? = none := by
  cases v <;> first | rfl | cases own

theorem forall₂_twin (vs : List Value) : List.Forall₂ Twin vs vs :=
  List.forall₂_same.2 fun _ _ => .inl rfl

/-- Members that come in order are the same one by one. -/
theorem members?_twin (ordered : x.isOrdered) (notStream : ∀ m xs, x ≠ .stream m xs)
    (h : x.Twin y) : Option.Rel (List.Forall₂ Twin) x.members? y.members? := by
  have refl (found : Option (List Value)) : Option.Rel (List.Forall₂ Twin) found found := by
    cases found with
    | none => exact .none
    | some vs => exact .some (forall₂_twin vs)
  rcases h with rfl | h
  · exact refl _
  cases same_iff.1 h with
  | list inside | tuple inside =>
    exact .some ((sameSequence_iff.1 inside).imp fun _ _ => twin_of_alike)
  | number own other =>
    rw [members?_of_number own, members?_of_number other]
    exact .none
  | bytes own other =>
    rcases own with rfl | rfl <;> rcases other with rfl | rfl <;> exact .some (forall₂_twin _)
  | stream => exact absurd rfl (notStream _ _)
  | object => exact .none
  | members own => rcases own with rfl | rfl <;> cases ordered
  | dict => cases ordered
  | null => exact .none
  | str | brokenStr => exact refl _

/-- In any order, there are as many of them. -/
theorem members?_length (notStream : ∀ m xs, x ≠ .stream m xs) (h : x.Twin y) :
    x.members?.map List.length = y.members?.map List.length := by
  by_cases ordered : x.isOrdered
  · generalize x.members? = own, y.members? = other, members?_twin ordered notStream h = paired
    cases paired with
    | none => rfl
    | some paired => exact congrArg some paired.length_eq
  rcases h with rfl | h
  · rfl
  cases same_iff.1 h with
  | members _ _ length => exact congrArg some length
  | dict length => simp [members?, length]
  | bytes own => rcases own with rfl | rfl <;> exact absurd rfl ordered
  | number own other => rw [members?_of_number own, members?_of_number other]
  | _ => exact absurd rfl ordered

end Value

end RecordCheck
