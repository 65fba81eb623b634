import RecordCheck.Proofs.Alike
import RecordCheck.Proofs.Keyed
import RecordCheck.Proofs.Outcome
import RecordCheck.Proofs.PatternText
import RecordCheck.Rule.Parts
import RecordCheck.Validation

/-!
# Rules with the same parts

Parts are compared by what they stand for, while values are checked by their kind too. Two rules
with the same parts therefore do the same only if the kinds in their operands agree where the kind
counts, and if members without an order of their own come in the same one where the order counts.

## Main definitions

* `Kindred`: related results, or errors of one class.
* `Act.Kin`: actions with kindred outcomes that take the same from streams.
* `Comparison.AgreesInKind`, `Length.AgreesInKind`: the operands differ in nothing that counts.

## Main statements

* `Comparison.apply_kin`, `Length.apply_kin`, `Match.apply_kin`, `BlankTest.apply_kin`,
  `ShapeTest.apply_kin`: rules with the same parts do the same.
-/
set_option autoImplicit false

namespace RecordCheck

open Act

/-- Related results, or errors of one class. -/
def Kindred {α β : Type} (R : α → β → Prop) : Except Error α → Except Error β → Prop
  | .ok x, .ok y => R x y
  | .error e, .error f => e.kind = f.kind
  | _, _ => False

namespace Kindred

variable {α β γ δ : Type} {R : α → β → Prop} {S : γ → δ → Prop} {r : Except Error α}
  {s : Except Error β}

theorem refl (r : Except Error α) : Kindred Eq r r := by
  cases r <;> rfl

theorem bind {f : α → Except Error γ} {g : β → Except Error δ} (first : Kindred R r s)
    (next : ∀ x y, R x y → Kindred S (f x) (g y)) : Kindred S (r >>= f) (s >>= g) := by
  cases r <;> cases s
  case ok.ok => exact next _ _ first
  case error.error => exact first
  all_goals exact first.elim

theorem map {f : α → γ} {g : β → δ} (first : Kindred R r s) (next : ∀ x y, R x y → S (f x) (g y)) :
    Kindred S (r.map f) (s.map g) := by
  cases r <;> cases s
  case ok.ok => exact next _ _ first
  case error.error => exact first
  all_goals exact first.elim

theorem mono {T : α → β → Prop} (h : Kindred R r s) (weaker : ∀ x y, R x y → T x y) :
    Kindred T r s := by
  cases r <;> cases s
  case ok.ok => exact weaker _ _ h
  case error.error => exact h
  all_goals exact h.elim

end Kindred

/-- From every ledger, two actions give kindred outcomes and leave the same ledger. -/
def Act.Kin {α β : Type} (R : α → β → Prop) (a : Act α) (b : Act β) : Prop :=
  ∀ ledger, Kindred R (outcome a ledger) (outcome b ledger) ∧ after a ledger = after b ledger

namespace Act.Kin

variable {α β γ δ : Type} {R : α → β → Prop} {S : γ → δ → Prop} {a : Act α} {b : Act β}

theorem refl (a : Act α) : Kin Eq a a := fun _ => ⟨.refl _, rfl⟩

theorem pure {x : α} {y : β} (h : R x y) : Kin R (Pure.pure x) (Pure.pure y) := fun _ => ⟨h, rfl⟩

theorem lift {r : Except Error α} {s : Except Error β} (h : Kindred R r s) :
    Kin R (liftM r : Act α) (liftM s : Act β) := fun _ => ⟨h, rfl⟩

theorem bind {f : α → Act γ} {g : β → Act δ} (first : Kin R a b)
    (next : ∀ x y, R x y → Kin S (f x) (g y)) : Kin S (a >>= f) (b >>= g) := by
  intro l
  obtain ⟨run, left⟩ := first l
  rw [outcome_bind, outcome_bind, after_bind, after_bind, ← left]
  cases one : outcome a l <;> cases two : outcome b l <;> rw [one, two] at run
  case ok.ok x y => exact next x y run _
  case error.error => exact ⟨run, rfl⟩
  all_goals exact run.elim

theorem mono {T : α → β → Prop} (h : Kin R a b) (weaker : ∀ x y, R x y → T x y) : Kin T a b :=
  fun l => ⟨(h l).1.mono weaker, (h l).2⟩

end Act.Kin

/-! ## Operators -/

theorem Value.eq_of_twin_text {x y : Value} (text : x.isStr) (h : x.Twin y) : x = y := by
  rcases h with rfl | same
  · rfl
  cases x with
  | str => exact (eq_of_same_str same).symm
  | brokenStr => exact (eq_of_same_brokenStr same).symm
  | _ => cases text

/-- Operators that are written with the same are one operator, unless neither is known. -/
theorem eq_or_unknown {Op : Type} {word : Op → Value} {read : Value → Op} {unknown : Value → Op}
    (known : ∀ o, (∃ s, word o = .str s) ∨ ∃ x, o = unknown x) {o o' : Op}
    (own : read (word o) = o) (other : read (word o') = o') (one : (word o).Twin (word o'))
    (two : (word o').Twin (word o)) : o = o' ∨ ∃ x y, o = unknown x ∧ o' = unknown y := by
  have same (h : word o = word o') : o = o' := by rw [← own, ← other, h]
  rcases known o with ⟨s, text⟩ | ⟨x, rfl⟩
  · exact .inl (same (Value.eq_of_twin_text (text ▸ rfl) one))
  rcases known o' with ⟨s, text⟩ | ⟨y, rfl⟩
  · exact .inl (same (Value.eq_of_twin_text (text ▸ rfl) two).symm)
  · exact .inr ⟨x, y, rfl, rfl⟩

/-- However an unknown operator is shown, it is a bad value. -/
theorem unknownOperator_kin {α β : Type} {R : α → β → Prop} (family : String) (x y : Value) :
    Kindred R (do throw (.unknownOperator family (← Error.textOf x)))
      (do throw (.unknownOperator family (← Error.textOf y))) := by
  have kind {γ : Type} (z : Value) : ∃ e : Error, e.kind = .fault .badValue ∧
      (do throw (.unknownOperator family (← Error.textOf z)) : Except Error γ) = .error e := by
    rw [Error.textOf]
    cases z.text? with
    | none => exact ⟨_, rfl, rfl⟩
    | some text => exact ⟨_, rfl, rfl⟩
  obtain ⟨e, one, thrown⟩ := kind (γ := α) x
  obtain ⟨f, two, thrown'⟩ := kind (γ := β) y
  rw [thrown, thrown']
  exact one.trans two.symm

/-! ## Tests of absence and of shape -/

theorem BlankTest.apply_kin {t u : BlankTest} (own : ofOperator t.operator = t)
    (other : ofOperator u.operator = u) (one : t.operator.Twin u.operator)
    (two : u.operator.Twin t.operator) (v : Value) : Kindred Eq (t.apply v) (u.apply v) := by
  have known (o : BlankTest) : (∃ s, o.operator = .str s) ∨ ∃ x, o = .unknown x := by
    cases o <;> simp [operator]
  obtain rfl | ⟨x, y, rfl, rfl⟩ := eq_or_unknown known own other one two
  · exact .refl _
  · exact unknownOperator_kin _ x y

theorem ShapeTest.apply_kin {t u : ShapeTest} (own : ofOperator t.operator = t)
    (other : ofOperator u.operator = u) (one : t.operator.Twin u.operator)
    (two : u.operator.Twin t.operator) (v : Value) : Kindred Eq (t.apply v) (u.apply v) := by
  have known (o : ShapeTest) : (∃ s, o.operator = .str s) ∨ ∃ x, o = .unknown x := by
    cases o <;> simp [operator]
  obtain rfl | ⟨x, y, rfl, rfl⟩ := eq_or_unknown known own other one two
  · exact .refl _
  · exact unknownOperator_kin _ x y

/-! ## Operands -/

namespace Value

variable {x y : Value}

/-- Two bounds come in the same order. -/
def SameOrder (x y : Value) : Prop :=
  ∀ low high, x.members? = some [low, high] → ∃ low' high', y.members? = some [low', high'] ∧
    low.Twin low' ∧ high.Twin high'

/-- Each scalar among the members of one value agrees with a member of another. -/
def MembersAgree (x y : Value) : Prop :=
  ∀ xs ys, x.members? = some xs → y.members? = some ys →
    ∀ v ∈ xs, v.isScalar → ∃ w ∈ ys, v.Agrees w

/-- Where members come in order, so do bounds. -/
theorem SameOrder.of_isOrdered (ordered : x.isOrdered) (notStream : ∀ m xs, x ≠ .stream m xs)
    (h : x.Twin y) : x.SameOrder y := by
  intro low high members
  have paired := members?_twin ordered notStream h
  rw [members] at paired
  generalize y.members? = found at paired ⊢
  cases paired with | some paired => ?_
  obtain ⟨low', rest, one, others, rfl⟩ := List.forall₂_cons_left_iff.1 paired
  obtain ⟨high', rest, two, last, rfl⟩ := List.forall₂_cons_left_iff.1 others
  cases last
  exact ⟨low', high', rfl, one, two⟩

theorem strictlySame_iff {v w : Value} : v.strictlySame w ↔ v.kind = w.kind ∧ v.same w := by
  rw [strictlySame, Bool.and_eq_true, beq_iff_eq]

theorem strictlySame_agrees {v : Value} (h : v.strictlySame x) (agrees : x.Agrees y) :
    v.strictlySame y := by
  rcases agrees with rfl | agrees
  · exact h
  obtain ⟨kind, same⟩ := strictlySame_iff.1 h
  obtain ⟨kind', same'⟩ := strictlySame_iff.1 agrees
  exact strictlySame_iff.2 ⟨kind.trans kind', same_trans same same'⟩

/-- Streams that are the same are one stream, if their numbers tell them apart. -/
theorem eq_or_notStream (one : x.Twin y) (two : y.Twin x)
    (streams : ∀ m xs ys, x = .stream m xs → y = .stream m ys → xs = ys) :
    x = y ∨ (∀ m xs, x ≠ .stream m xs) ∧ ∀ m ys, y ≠ .stream m ys := by
  rcases one with rfl | one
  · exact .inl rfl
  rcases two with rfl | two
  · exact .inl rfl
  by_cases stream : (∃ m xs, x = .stream m xs) ∨ ∃ m ys, y = .stream m ys
  · rcases stream with ⟨m, xs, rfl⟩ | ⟨m, ys, rfl⟩
    · obtain ⟨-, ys, rfl⟩ := stream_of_same one
      exact .inl (streams m xs ys rfl rfl ▸ rfl)
    · obtain ⟨-, xs, rfl⟩ := stream_of_same two
      exact .inl (streams m xs ys rfl rfl ▸ rfl)
  · exact .inr ⟨fun m xs h => stream (.inl ⟨m, xs, h⟩), fun m ys h => stream (.inr ⟨m, ys, h⟩)⟩

/-- What is no mapping has no answer for what is no text. -/
theorem field?_eq_none {record : Value} (mapping : record.isMapping = false)
    (text : x.isStr = false) : record.field? x = none := by
  unfold field?
  split
  · cases mapping
  · cases text
  · cases text
  · rfl

/-- A record has the same under names that are found alike. -/
theorem field?_congr (one : x.Twin y) (two : y.Twin x) (hashable : x.isHashable = y.isHashable)
    (record : Value) : record.field? x = record.field? y := by
  by_cases text : x.isStr ∨ y.isStr
  · rcases text with text | text
    · rw [eq_of_twin_text text one]
    · rw [eq_of_twin_text text two]
  cases record with
  | dict entries =>
    have found : Keyed.find? x entries = Keyed.find? y entries := by
      induction entries with
      | nil => rfl
      | cons entry entries ih => rw [Keyed.find?, Keyed.find?, same_congr one two, ih]
    rw [field?, field?, hashable, found]
  | _ =>
    simp only [not_or, Bool.not_eq_true] at text
    rw [field?_eq_none rfl text.1, field?_eq_none rfl text.2]

end Value

namespace Comparison

variable {x y : Value}

theorem boundOf_kin (h : x.Twin y) :
    Kindred (fun a b => a.value = b.value) (boundOf x) (boundOf y) := by
  unfold boundOf
  generalize x.number? = own, y.number? = other, Value.number?_congr h = numbers
  cases numbers with
  | none => rfl
  | some same => exact same

theorem boundsOf_of_length {xs : List Value} (members : x.members? = some xs)
    (length : xs.length ≠ 2) : boundsOf x = .error .badValue := by
  rw [boundsOf, members]
  match xs with
  | [] | [_] | _ :: _ :: _ :: _ => rfl
  | [_, _] => exact absurd rfl length

theorem boundsOf_kin (notStream : ∀ m xs, x ≠ .stream m xs) (h : x.Twin y)
    (order : x.isOrdered = false → x.SameOrder y) :
    Kindred (fun p q => p.1.Twin q.1 ∧ p.2.Twin q.2) (boundsOf x) (boundsOf y) := by
  have inOrder : x.SameOrder y := by
    cases ordered : x.isOrdered with
    | false => exact order ordered
    | true => exact .of_isOrdered ordered notStream h
  have length := Value.members?_length notStream h
  cases own : x.members? with
  | none =>
    cases other : y.members? with
    | none =>
      rw [boundsOf, boundsOf, own, other]
      rfl
    | some ys => simp [own, other] at length
  | some xs =>
    cases other : y.members? with
    | none => simp [own, other] at length
    | some ys =>
      have length : xs.length = ys.length := by simpa [own, other] using length
      by_cases two : xs.length = 2
      · obtain ⟨low, high, rfl⟩ := List.length_eq_two.1 two
        obtain ⟨low', high', other, first, second⟩ := inOrder low high own
        rw [boundsOf, boundsOf, own, other]
        exact ⟨first, second⟩
      · rw [boundsOf_of_length own two, boundsOf_of_length other (length ▸ two)]
        exact rfl

/-! ## Comparisons -/

theorem above_kin (h : x.Twin y) (n : Number) : Kindred Eq (above x n) (above y n) :=
  (boundOf_kin h).bind fun a b same => by
    rw [(Number.lt_congr same n).1]
    exact .refl _

theorem below_kin (h : x.Twin y) (n : Number) : Kindred Eq (below x n) (below y n) :=
  (boundOf_kin h).bind fun a b same => by
    rw [(Number.lt_congr same n).2]
    exact .refl _

theorem outside_kin (bounds : Kindred (fun p q => p.1.Twin q.1 ∧ p.2.Twin q.2) (boundsOf x)
    (boundsOf y)) (n : Number) : Kindred Eq (outside x n) (outside y n) := by
  refine bounds.bind fun p q ⟨low, high⟩ => (above_kin high n).bind fun code _ same => ?_
  subst same
  cases code with
  | some code => exact .refl _
  | none => exact below_kin low n

theorem onNumber_kin {test test' : Number → Except Error (Option String)}
    (kin : ∀ n, Kindred Eq (test n) (test' n)) (v : Value) :
    Kindred Eq (onNumber v test) (onNumber v test') := by
  unfold onNumber
  split
  · exact kin _
  · exact .refl _

theorem isAccepted_kin {v : Value} (scalar : v.isScalar) (notStream : ∀ m xs, x ≠ .stream m xs)
    (h : x.Twin y) (one : x.MembersAgree y) (two : y.MembersAgree x) :
    Kindred Eq (isAccepted x v) (isAccepted y v) := by
  have length := Value.members?_length notStream h
  have accepted {x y : Value} {xs ys : List Value} (agree : x.MembersAgree y)
      (own : x.members? = some xs) (other : y.members? = some ys)
      (h : xs.any fun w => v.strictlySame w) : ys.any fun w => v.strictlySame w := by
    obtain ⟨w, member, same⟩ := List.any_eq_true.1 h
    have plain := Value.isScalar_of_kind (Value.strictlySame_iff.1 same).1 ▸ scalar
    obtain ⟨w', member', agrees⟩ := agree xs ys own other w member plain
    exact List.any_eq_true.2 ⟨w', member', Value.strictlySame_agrees same agrees⟩
  unfold isAccepted
  cases own : x.members? <;> cases other : y.members? <;> rw [own, other] at length
  case none.none => rfl
  case some.some xs ys =>
    exact Bool.eq_iff_iff.2 ⟨accepted one own other, accepted two other own⟩
  all_goals cases length

theorem againstField_kin (one : x.Twin y) (two : y.Twin x)
    (hashable : x.isHashable = y.isHashable) (v record : Value) :
    Kindred Eq (againstField x v record) (againstField y v record) := by
  have same := Value.field?_congr one two hashable record
  cases record with
  | null => exact .refl _
  | _ =>
    simp only [againstField, same]
    exact .refl _

/-- The operands differ in nothing that their operator looks at. -/
def AgreesInKind (c d : Comparison) : Prop :=
  match c.operator with
  | .equalTo => c.operand.isScalar → c.operand.kind = d.operand.kind
  | .oneOf => c.operand.MembersAgree d.operand ∧ d.operand.MembersAgree c.operand
  | .within => c.operand.isOrdered = false → c.operand.SameOrder d.operand
  | .sameAs => c.operand.isHashable = d.operand.isHashable
  | _ => True

theorem judge_kin {operator : Operator} (one : x.Twin y) (two : y.Twin x)
    (notStream : ∀ m xs, x ≠ .stream m xs)
    (agrees : AgreesInKind ⟨operator, x⟩ ⟨operator, y⟩) (v record : Value) :
    Kindred Eq (judge ⟨operator, x⟩ v record) (judge ⟨operator, y⟩ v record) := by
  unfold judge
  split
  · next scalar =>
    cases operator with
    | oneOf =>
      exact (isAccepted_kin scalar notStream one agrees.1 agrees.2).map fun _ _ same => same ▸ rfl
    | equalTo =>
      rw [onScalar, onScalar, Value.strictlySame_congr scalar one two agrees]
      exact .refl _
    | atMost => exact onNumber_kin (above_kin one) v
    | atLeast => exact onNumber_kin (below_kin one) v
    | within => exact onNumber_kin (outside_kin (boundsOf_kin notStream one agrees)) v
    | sameAs => exact againstField_kin one two agrees v record
    | unknown o => exact .refl _
    | _ => exact .refl _
  · cases operator with
    | sameAs =>
      cases v with
      | null => exact againstField_kin one two agrees .null record
      | _ => exact .refl _
    | _ => exact .refl _

theorem apply_of_notStream {c : Comparison} (notStream : ∀ m xs, c.operand ≠ .stream m xs)
    (v record : Value) : c.apply v record = liftM (c.judge v record) := by
  unfold apply
  split
  · next stream => exact absurd stream (notStream _ _)
  · next stream => exact absurd stream (notStream _ _)
  · rfl

/-- Comparisons with the same parts do the same. -/
theorem apply_kin {c d : Comparison} (own : .ofValue c.operator.toValue = c.operator)
    (other : .ofValue d.operator.toValue = d.operator)
    (operators : c.operator.toValue.Twin d.operator.toValue)
    (operators' : d.operator.toValue.Twin c.operator.toValue) (operands : c.operand.Twin d.operand)
    (operands' : d.operand.Twin c.operand)
    (streams : ∀ m xs ys, c.operand = .stream m xs → d.operand = .stream m ys → xs = ys)
    (agrees : c.AgreesInKind d) (v record : Value) :
    Kin Eq (c.apply v record) (d.apply v record) := by
  obtain ⟨operator, x⟩ := c
  obtain ⟨operator', y⟩ := d
  have known (o : Operator) : (∃ s, o.toValue = .str s) ∨ ∃ x, o = .unknown x := by
    cases o <;> simp [Operator.toValue]
  obtain rfl | ⟨o, o', rfl, rfl⟩ := eq_or_unknown known own other operators operators'
  · obtain rfl | ⟨notStream, notStream'⟩ := Value.eq_or_notStream operands operands' streams
    · exact .refl _
    · rw [apply_of_notStream notStream, apply_of_notStream notStream']
      exact .lift (judge_kin operands operands' notStream agrees v record)
  · refine .lift ?_
    unfold judge
    split
    · exact unknownOperator_kin _ o o'
    · exact .refl _

end Comparison

/-! ## Lengths -/

namespace Length

variable {x y encoding encoding' : Value}

/-- The bounds differ in nothing that their operator looks at. -/
def AgreesInKind (l m : Length) : Prop :=
  match l.operator with
  | .between => l.bounds.isOrdered = false → l.bounds.SameOrder m.bounds
  | _ => True

theorem above_kin (h : x.Twin y) (length : Nat) : Kindred Eq (above x length) (above y length) :=
  (Comparison.boundOf_kin h).bind fun a b same => by
    rw [(Number.lt_congr same _).1]
    exact .refl _

theorem below_kin (h : x.Twin y) (length : Nat) : Kindred Eq (below x length) (below y length) :=
  (Comparison.boundOf_kin h).bind fun a b same => by
    rw [(Number.lt_congr same _).2]
    exact .refl _

theorem outside_kin {low low' high high' : Value} (one : low.Twin low') (two : high.Twin high')
    (length : Nat) : Kindred Eq (outside low high length) (outside low' high' length) := by
  refine (above_kin two length).bind fun code _ same => ?_
  subst same
  cases code with
  | some code => exact .refl _
  | none => exact below_kin one length

/-- An encoding matters as text only. -/
theorem measure_congr (one : encoding.Twin encoding') (two : encoding'.Twin encoding) (v : Value) :
    measure encoding v = measure encoding' v := by
  by_cases text : encoding.isStr ∨ encoding'.isStr
  · rcases text with text | text
    · rw [Value.eq_of_twin_text text one]
    · rw [Value.eq_of_twin_text text two]
  have noText {e : Value} (h : ¬ e.isStr) (data : List UInt8) :
      ofBytes e data = .error .wrongType := by
    cases e <;> first | rfl | exact absurd rfl h
  rw [not_or] at text
  cases v with
  | bytes data | bytearray data => exact (noText text.1 data).trans (noText text.2 data).symm
  | _ => rfl

theorem apply_of_notStream {l : Length} (notStream : ∀ m xs, l.bounds ≠ .stream m xs) (v : Value) :
    l.apply v = liftM (l.judge v) := by
  unfold apply
  split
  · next stream => exact absurd stream (notStream _ _)
  · rfl

/-- Nothing but the length that it gives is seen of an encoding. -/
theorem apply_congr {operator : Operator} {v : Value}
    (measured : measure encoding v = measure encoding' v) :
    apply ⟨operator, x, encoding⟩ v = apply ⟨operator, x, encoding'⟩ v := by
  have judged (y : Value) : judge ⟨operator, y, encoding⟩ v = judge ⟨operator, y, encoding'⟩ v := by
    unfold judge
    rw [measured]
    rfl
  have reached (left : List Value) :
      reach ⟨operator, x, encoding⟩ v left = reach ⟨operator, x, encoding'⟩ v left := by
    unfold reach
    rw [measured]
  unfold apply
  simp only [judged, reached]

theorem onLength_kin {operator : Operator} (one : x.Twin y)
    (notStream : ∀ m xs, x ≠ .stream m xs)
    (agrees : AgreesInKind ⟨operator, x, encoding⟩ ⟨operator, y, encoding'⟩) (length : Nat) :
    Kindred Eq (onLength ⟨operator, x, encoding⟩ length)
      (onLength ⟨operator, y, encoding'⟩ length) := by
  cases operator with
  | atMost => exact above_kin one length
  | atLeast => exact below_kin one length
  | exactly => exact outside_kin one one length
  | between =>
    exact (Comparison.boundsOf_kin notStream one agrees).bind fun p q ⟨low, high⟩ =>
      outside_kin low high length
  | unknown o => exact .refl _

/-- Rules about lengths with the same parts do the same. -/
theorem apply_kin {l m : Length} (own : .ofValue l.operator.toValue = l.operator)
    (other : .ofValue m.operator.toValue = m.operator)
    (operators : l.operator.toValue.Twin m.operator.toValue)
    (operators' : m.operator.toValue.Twin l.operator.toValue) (bounds : l.bounds.Twin m.bounds)
    (bounds' : m.bounds.Twin l.bounds) (encodings : l.encoding.Twin m.encoding)
    (encodings' : m.encoding.Twin l.encoding)
    (streams : ∀ n xs ys, l.bounds = .stream n xs → m.bounds = .stream n ys → xs = ys)
    (agrees : l.AgreesInKind m) (v : Value) : Kin Eq (l.apply v) (m.apply v) := by
  obtain ⟨operator, x, encoding⟩ := l
  obtain ⟨operator', y, encoding'⟩ := m
  have known (o : Operator) : (∃ s, o.toValue = .str s) ∨ ∃ x, o = .unknown x := by
    cases o <;> simp [Operator.toValue]
  have judged {o o' : Operator} {x y : Value} (kin : ∀ length,
      Kindred Eq (onLength ⟨o, x, encoding⟩ length) (onLength ⟨o', y, encoding'⟩ length)) :
      Kindred Eq (judge ⟨o, x, encoding⟩ v) (judge ⟨o', y, encoding'⟩ v) := by
    unfold judge
    rw [measure_congr encodings encodings' v]
    refine (Kindred.refl _).bind fun length _ same => ?_
    subst same
    cases length with
    | some length => exact kin length
    | none => exact .refl _
  obtain rfl | ⟨o, o', rfl, rfl⟩ := eq_or_unknown known own other operators operators'
  · obtain rfl | ⟨notStream, notStream'⟩ := Value.eq_or_notStream bounds bounds' streams
    · rw [apply_congr (measure_congr encodings encodings' v)]
      exact .refl _
    · rw [apply_of_notStream notStream, apply_of_notStream notStream']
      exact .lift (judged (onLength_kin bounds notStream agrees))
  · exact .lift (judged fun _ => unknownOperator_kin _ o o')

end Length

/-! ## Patterns and time zones -/

theorem Match.apply_kin {m n : Match} {given others : PatternFlags}
    (own : Pattern.ofSource m.pattern.isText m.pattern.source given = .ok m.pattern)
    (other : Pattern.ofSource n.pattern.isText n.pattern.source others = .ok n.pattern)
    (same : m.pattern.same n.pattern) (errors : m.error.Twin n.error) (v : Value) :
    Kindred (Option.Rel Value.Twin) (m.apply v) (n.apply v) := by
  unfold apply
  rw [Pattern.eq_of_same own other same]
  split
  · refine (Kindred.refl _).bind fun text _ same => ?_
    subst same
    refine (Kindred.refl _).bind fun found _ same => ?_
    subst same
    split
    · exact .none
    · exact .some errors
  · exact .some (.inl rfl)

/-- Zones are found by their text alone. -/
theorem zoneCode?_congr {zones zones' : List Value} (one : Value.sameMembers zones zones')
    (two : Value.sameMembers zones' zones) (v : Value) :
    zoneCode? zones v = zoneCode? zones' v := by
  have found {zones zones' : List Value} (one : Value.sameMembers zones zones') (text : v.isStr)
      (h : zones.any fun zone => zone.same v) : zones'.any fun zone => zone.same v := by
    obtain ⟨zone, member, same⟩ := List.any_eq_true.1 h
    obtain ⟨zone', member', alike⟩ := Value.sameMembers_iff.1 one zone member
    have own : zone = v := Value.eq_of_same_text text same
    exact List.any_eq_true.2 ⟨zone', member',
      Value.eq_of_twin_text (own ▸ text) (Value.twin_of_alike alike) ▸ same⟩
  unfold zoneCode?
  cases text : v.isStr with
  | false => rfl
  | true =>
    have same : (zones.any fun zone => zone.same v) = zones'.any fun zone => zone.same v :=
      Bool.eq_iff_iff.2 ⟨found one text, found two text⟩
    rw [same]

end RecordCheck
