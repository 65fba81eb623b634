import Mathlib
import RecordCheck.Proofs.Reading
import RecordCheck.Proofs.Writable
import RecordCheck.Validation

/-!
# Rules that fit together

A rule that was put together by hand may have parts that it cannot work with. Those that built-in
rules make of plain data are fit: applied to any value, a comparison, a length or a test of a shape
gives an answer. What they are given by the description itself, the name of a field or of an
encoding, has to be of the right kind.

## Main definitions

* `Piece.IsFit`: no unfinished rule, no unknown operator, and operands of the right form.
* `Piece.IsPlain`: other fields are named by text, and no encoding but the usual one is given.
* `Value.isJson`: data as it is written in JSON text.

## Main statements

* `Comparison.apply_total`, `Length.apply_total`: fit rules answer.
* `Builtin.make_makes`: what built-in rules make.
-/
set_option autoImplicit false

namespace RecordCheck

open Act

/-- An action that never fails. -/
abbrev Act.Total {α : Type} (a : Act α) : Prop := Ensures a (fun _ => True) fun _ => False

theorem Act.Total.of_ok {α : Type} {r : Except Error α} {x : α} (h : r = .ok x) :
    Act.Total (liftM r : Act α) :=
  .lift (fun _ _ => trivial) fun e failed => by simp [h] at failed

/-- A field can be read under any text. -/
theorem Value.field?_isSome {name : Value} (named : name.isStr) (record : Value) :
    ∃ v, record.field? name = some v := by
  cases name with
  | str s => cases record <;> simp [Value.field?, Value.isHashable]
  | brokenStr codes => cases record <;> simp [Value.field?, Value.isHashable]
  | _ => cases named

/-! ## Comparisons -/

namespace Comparison

/-- The operand is one that the operator can work with. -/
def IsFit (c : Comparison) : Prop :=
  match c.operator with
  | .oneOf => ∃ accepted, c.operand = .tuple accepted
  | .atMost | .atLeast => ∃ limit : Number, c.operand = .ofNumber limit
  | .within => ∃ low high : Number, c.operand = .tuple [.ofNumber low, .ofNumber high]
  | .unknown _ => False
  | _ => True

theorem boundOf_ofNumber (n : Number) : boundOf (.ofNumber n) = .ok n := by
  cases n <;> rfl

theorem above_ok (limit n : Number) : ∃ code, above (.ofNumber limit) n = .ok code := by
  rw [above, boundOf_ofNumber]
  exact ⟨_, rfl⟩

theorem below_ok (limit n : Number) : ∃ code, below (.ofNumber limit) n = .ok code := by
  rw [below, boundOf_ofNumber]
  exact ⟨_, rfl⟩

theorem outside_ok (low high n : Number) :
    ∃ code, outside (.tuple [.ofNumber low, .ofNumber high]) n = .ok code := by
  obtain ⟨code, first⟩ := above_ok high n
  simp only [outside, boundsOf, Value.members?, bind, Except.bind, first]
  cases code with
  | some code => exact ⟨_, rfl⟩
  | none => exact below_ok low n

theorem onNumber_ok {test : Number → Except Error (Option String)}
    (total : ∀ n, ∃ code, test n = .ok code) (v : Value) : ∃ code, onNumber v test = .ok code := by
  unfold onNumber
  split
  · exact total _
  · exact ⟨_, rfl⟩

theorem againstField_ok {field : Value} (named : field.isStr) (v record : Value) :
    ∃ code, againstField field v record = .ok code := by
  cases record with
  | null => exact ⟨_, rfl⟩
  | _ =>
    simp only [againstField]
    split
    · next unread =>
      exact absurd unread (Option.ne_none_iff_exists'.2 (Value.field?_isSome named _))
    · exact ⟨_, rfl⟩

theorem onScalar_ok {c : Comparison} (fit : c.IsFit)
    (named : c.operator = .sameAs → c.operand.isStr) (v record : Value) :
    ∃ code, c.onScalar v record = .ok code := by
  obtain ⟨operator, operand⟩ := c
  cases operator with
  | oneOf =>
    obtain ⟨accepted, rfl⟩ := fit
    exact ⟨_, rfl⟩
  | equalTo | integer | positiveInteger | decimal | positiveDecimal => exact ⟨_, rfl⟩
  | atMost =>
    obtain ⟨limit, rfl⟩ := fit
    exact onNumber_ok (above_ok limit) v
  | atLeast =>
    obtain ⟨limit, rfl⟩ := fit
    exact onNumber_ok (below_ok limit) v
  | within =>
    obtain ⟨low, high, rfl⟩ := fit
    exact onNumber_ok (outside_ok low high) v
  | sameAs => exact againstField_ok (named rfl) v record
  | unknown operator => exact fit.elim

theorem judge_ok {c : Comparison} (fit : c.IsFit) (named : c.operator = .sameAs → c.operand.isStr)
    (v record : Value) : ∃ code, c.judge v record = .ok code := by
  unfold judge
  split
  · exact onScalar_ok fit named v record
  · split
    · next same _ => exact againstField_ok (named same) .null record
    · exact ⟨_, rfl⟩

theorem oneOf_fit (values : Value) : Yields (oneOf values) IsFit :=
  (yields_any _).bind fun accepted _ => .pure ⟨accepted, rfl⟩

theorem atMost_fit {v : Value} {c : Comparison} (made : atMost v = .ok c) : c.IsFit := by
  rw [atMost] at made
  cases h : limit "max_number" v <;> rw [h] at made <;> cases made
  exact ⟨_, rfl⟩

theorem atLeast_fit {v : Value} {c : Comparison} (made : atLeast v = .ok c) : c.IsFit := by
  rw [atLeast] at made
  cases h : limit "min_number" v <;> rw [h] at made <;> cases made
  exact ⟨_, rfl⟩

theorem within_fit {a b : Value} {c : Comparison} (made : within a b = .ok c) : c.IsFit := by
  rw [within] at made
  cases hm : limit "number_between" a <;> rw [hm] at made <;> try cases made
  cases hn : limit "number_between" b <;> rw [hn] at made <;> cases made
  exact ⟨_, _, rfl⟩

/-- What a fit comparison goes through is no stream. -/
theorem IsFit.operand_ne_stream {c : Comparison} (fit : c.IsFit)
    (several : c.operator = .oneOf ∨ c.operator = .within) (serial : Nat) (entries : List Value) :
    c.operand ≠ .stream serial entries := by
  intro stream
  rcases several with operator | operator
  · rw [IsFit, operator] at fit
    obtain ⟨_, tuple⟩ := fit
    cases stream.symm.trans tuple
  · rw [IsFit, operator] at fit
    obtain ⟨_, _, tuple⟩ := fit
    cases stream.symm.trans tuple

/-- A fit comparison answers for any value. -/
theorem apply_total {c : Comparison} (fit : c.IsFit)
    (named : c.operator = .sameAs → c.operand.isStr) (v record : Value) :
    Act.Total (c.apply v record) := by
  unfold apply
  split
  · next operator operand => exact absurd operand (fit.operand_ne_stream (.inl operator) _ _)
  · next operator operand => exact absurd operand (fit.operand_ne_stream (.inr operator) _ _)
  · obtain ⟨code, ok⟩ := judge_ok fit named v record
    exact .of_ok ok

end Comparison

/-! ## Lengths -/

namespace Length

/-- The bounds are whole numbers, as many as the operator asks for. -/
def IsFit (l : Length) : Prop :=
  match l.operator with
  | .atMost | .atLeast | .exactly => ∃ n, l.bounds = .int n
  | .between => ∃ m n, l.bounds = .tuple [.int m, .int n]
  | .unknown _ => False

theorem ofName?_default : Text.Encoding.ofName? "UTF-8" = some .utf8 := by cbv

/-- Bytes that are not UTF-8 have no length, but measuring them is no fault. -/
theorem ofBytes_ok (data : List UInt8) : ∃ length, ofBytes defaultEncoding data = .ok length := by
  have noBreak : ("UTF-8".toList.contains '\x00') = false := by decide
  simp only [ofBytes, defaultEncoding, noBreak, ofName?_default, Bool.false_eq_true, if_false]
  split
  · exact ⟨_, rfl⟩
  · rw [Text.Encoding.count]
    cases (Text.Utf8.decode? data).map (·.length) <;> exact ⟨_, rfl⟩

theorem measure_ok (v : Value) : ∃ length, measure defaultEncoding v = .ok length := by
  cases v with
  | bytes data | bytearray data => exact ofBytes_ok data
  | _ => exact ⟨_, rfl⟩

theorem outside_ok (low high : Int) (length : Nat) :
    ∃ code, outside (.int low) (.int high) length = .ok code := by
  simp only [outside, above, below, boundOf, Value.number?, bind, Except.bind, pure, Except.pure]
  split <;> exact ⟨_, rfl⟩

theorem onLength_ok {l : Length} (fit : l.IsFit) (length : Nat) :
    ∃ code, l.onLength length = .ok code := by
  obtain ⟨operator, bounds, encoding⟩ := l
  cases operator with
  | atMost | atLeast =>
    obtain ⟨n, rfl⟩ := fit
    exact ⟨_, rfl⟩
  | exactly =>
    obtain ⟨n, rfl⟩ := fit
    exact outside_ok n n length
  | between =>
    obtain ⟨m, n, rfl⟩ := fit
    exact outside_ok m n length
  | unknown operator => exact fit.elim

theorem atMost_fit {v encoding : Value} {l : Length} (made : atMost v encoding = .ok l) :
    l.IsFit := by
  rw [atMost] at made
  cases h : wholeOf v <;> rw [h] at made <;> cases made
  exact ⟨_, rfl⟩

theorem atLeast_fit {v encoding : Value} {l : Length} (made : atLeast v encoding = .ok l) :
    l.IsFit := by
  rw [atLeast] at made
  cases h : wholeOf v <;> rw [h] at made <;> cases made
  exact ⟨_, rfl⟩

theorem exactly_fit {v encoding : Value} {l : Length} (made : exactly v encoding = .ok l) :
    l.IsFit := by
  rw [exactly] at made
  cases h : wholeOf v <;> rw [h] at made <;> cases made
  exact ⟨_, rfl⟩

theorem between_fit {a b encoding : Value} {l : Length} (made : between a b encoding = .ok l) :
    l.IsFit := by
  rw [between] at made
  cases hm : wholeOf a <;> rw [hm] at made <;> try cases made
  cases hn : wholeOf b <;> rw [hn] at made <;> cases made
  exact ⟨_, _, rfl⟩

/-- The bounds of a fit length are no stream. -/
theorem IsFit.bounds_ne_stream {l : Length} (fit : l.IsFit) (between : l.operator = .between)
    (serial : Nat) (entries : List Value) : l.bounds ≠ .stream serial entries := by
  intro stream
  rw [IsFit, between] at fit
  obtain ⟨_, _, tuple⟩ := fit
  cases stream.symm.trans tuple

/-- A fit length without an encoding of its own answers for any value. -/
theorem apply_total {l : Length} (fit : l.IsFit) (usual : l.encoding = defaultEncoding)
    (v : Value) : Act.Total (l.apply v) := by
  unfold apply
  split
  · next operator bounds => exact absurd bounds (fit.bounds_ne_stream operator _ _)
  · obtain ⟨length, measured⟩ := measure_ok v
    have judged : ∃ code, l.judge v = .ok code := by
      simp only [judge, usual, measured, bind, Except.bind]
      cases length with
      | none => exact ⟨_, rfl⟩
      | some length => exact onLength_ok fit length
    obtain ⟨code, ok⟩ := judged
    exact .of_ok ok

end Length

/-! ## Plain data -/

mutual

/-- Data as it is written in JSON text: null, numbers, truth values and text, lists of data, and
mappings from text to data. -/
def Value.isJson : Value → Bool
  | .null | .bool _ | .int _ | .float _ | .str _ | .brokenStr _ => true
  | .items .list entries => Value.areJson entries
  | .dict entries => Value.entriesJson entries
  | _ => false

def Value.areJson : List Value → Bool
  | [] => true
  | v :: vs => v.isJson && Value.areJson vs

def Value.entriesJson : List (Value × Value) → Bool
  | [] => true
  | (k, v) :: rest => k.isStr && v.isJson && Value.entriesJson rest

end

namespace Value

theorem areJson_iff {vs : List Value} : areJson vs ↔ ∀ v ∈ vs, v.isJson := by
  induction vs with
  | nil => simp [areJson]
  | cons v vs ih => simp [areJson, ih]

theorem entriesJson_iff {entries : List (Value × Value)} :
    entriesJson entries ↔ ∀ e ∈ entries, e.1.isStr ∧ e.2.isJson := by
  induction entries with
  | nil => simp [entriesJson]
  | cons e rest ih => simp [entriesJson, ih, and_assoc]

theorem hereditary_isJson : Hereditary fun v => v.isJson where
  null := rfl
  items {container entries} h := by
    cases container with
    | list =>
      rw [isJson] at h
      exact areJson_iff.1 h
    | _ => simp [isJson] at h
  dict h entry member := by
    rw [isJson] at h
    exact (entriesJson_iff.1 h entry member).2

end Value

/-! ## Pieces -/

/-- The test is none that is not known. -/
def BlankTest.IsKnown : BlankTest → Prop
  | .unknown _ => False
  | _ => True

/-- The test is none that is not known. -/
def ShapeTest.IsKnown : ShapeTest → Prop
  | .unknown _ => False
  | _ => True

/-- A piece that can be applied to any value, as far as that does not depend on the pieces in it. -/
def Piece.IsFit : Piece → Prop
  | .rule (.blank test) => test.IsKnown
  | .rule (.comparison c) => c.IsFit
  | .rule (.length l) => l.IsFit
  | .rule (.shape test) => test.IsKnown
  | .rule (.pattern m) => m.pattern.isText
  | .rule (.timezone _) => True
  | .rule r => r.IsComposed
  | .validator (.fields _ entries) => ∀ entry ∈ entries, entry.1.isStr
  | .validator (.switch _ _ cases) => ∀ case ∈ cases, case.2.isFlat
  | .set _ => True

/-- Fields that are compared with or that a switch goes by are named by text, and no encoding but
the usual one is given. -/
def Piece.IsPlain : Piece → Prop
  | .rule (.comparison c) => c.operator = .sameAs → c.operand.isStr
  | .rule (.length l) => l.encoding = Length.defaultEncoding
  | .validator (.switch _ field _) => field.isStr
  | _ => True

theorem BlankTest.apply_ok {test : BlankTest} (known : test.IsKnown) (v : Value) :
    ∃ code, test.apply v = .ok code := by
  cases test with
  | unknown operator => exact known.elim
  | _ => exact ⟨_, rfl⟩

theorem ShapeTest.apply_ok {test : ShapeTest} (known : test.IsKnown) (v : Value) :
    ∃ code, test.apply v = .ok code := by
  cases test with
  | unknown operator => exact known.elim
  | _ => exact ⟨_, rfl⟩

/-! ## Built-in rules -/

namespace Match

/-- A pattern that was given is text or bytes, and has the common code. -/
theorem like_makes (pattern flags : Value) :
    Yields (like pattern flags) fun m =>
      m.error = .str Code.wrongFormat ∧ (m.pattern.isText ∨ ∃ data, pattern = .bytes data) := by
  have read (letters : PatternFlags) (p : Pattern)
      (made : Pattern.ofValue pattern letters = .ok p) :
      p.isText ∨ ∃ data, pattern = .bytes data := by
    unfold Pattern.ofValue at made
    split at made
    · unfold Pattern.ofSource at made
      split at made <;> cases made
      exact .inl rfl
    · exact .inr ⟨_, rfl⟩
    · cases made
  have rest (flags : Value) : Yields (do
      let p ← Pattern.ofValue pattern (← PatternFlags.ofValue flags)
      return (⟨p, .str Code.wrongFormat⟩ : Match)) fun m =>
        m.error = .str Code.wrongFormat ∧ (m.pattern.isText ∨ ∃ data, pattern = .bytes data) :=
    (yields_any _).bind fun letters _ =>
      Ensures.bind (.lift (read letters) fun _ _ => trivial) fun p hp => .pure ⟨rfl, hp⟩
  unfold like
  dsimp only
  split <;> exact (yields_any _).bind fun _ _ => rest _

end Match

namespace Builtin

/-- What built-in rules make of arguments. -/
inductive Makes (args : List Value) : Rule → Prop
  | blank {test : BlankTest} : test.IsKnown → Makes args (.blank test)
  | comparison {c : Comparison} : c.IsFit → Makes args (.comparison c)
  | length {l : Length} : l.IsFit → Makes args (.length l)
  | shape {test : ShapeTest} : test.IsKnown → Makes args (.shape test)
  | format {m : Match} : m ∈ [.email, .date, .url] → Makes args (.pattern m)
  | like {m : Match} : m.error = .str Code.wrongFormat →
      (m.pattern.isText ∨ ∃ data, .bytes data ∈ args) → Makes args (.pattern m)
  | timezone : Makes args .knownTimezone
  | draft {d : Draft} : d.description ∈ args → Makes args (.draft d)

theorem mappingFor_eq {rule : String} {v description : Value}
    (h : mappingFor rule v = .ok description) : description = v := by
  unfold mappingFor at h
  split at h <;> cases h
  rfl

theorem make_makes (b : Builtin) (args : List Value) : Yields (b.make args) (Makes args) := by
  have made {α : Type} {r : Except Error α} {P : α → Prop} {f : α → Rule}
      (ok : ∀ x, r = .ok x → P x) (fits : ∀ x, P x → Makes args (f x)) :
      Yields (do return f (← r)) (Makes args) :=
    Ensures.bind (.lift ok fun _ _ => trivial) fun x h => .pure (fits x h)
  unfold make
  split
  case h_1 | h_2 | h_3 => exact .pure (.blank trivial)
  case h_4 => exact .map ((Comparison.oneOf_fit _).mono (fun _ => .comparison) fun _ h => h)
  case h_5 | h_16 | h_17 | h_18 | h_19 | h_27 => exact .pure (.comparison trivial)
  case h_6 | h_7 => exact made (fun _ => Length.atLeast_fit) fun _ => .length
  case h_8 | h_9 => exact made (fun _ => Length.atMost_fit) fun _ => .length
  case h_10 | h_11 => exact made (fun _ => Length.exactly_fit) fun _ => .length
  case h_12 | h_13 => exact made (fun _ => Length.between_fit) fun _ => .length
  case h_14 | h_15 =>
    refine .map ((Match.like_makes _ _).mono (fun m h => .like h.1 ?_) fun _ h => h)
    exact h.2.imp_right fun ⟨data, bytes⟩ => ⟨data, by simp [bytes]⟩
  case h_20 => exact made (fun _ => Comparison.atLeast_fit) fun _ => .comparison
  case h_21 => exact made (fun _ => Comparison.atMost_fit) fun _ => .comparison
  case h_22 => exact made (fun _ => Comparison.within_fit) fun _ => .comparison
  case h_23 | h_24 | h_25 => exact .pure (.format (by simp))
  case h_26 => exact .pure .timezone
  case h_28 | h_29 => exact .pure (.shape trivial)
  case h_30 | h_32 | h_33 =>
    exact made (fun _ => mappingFor_eq) fun _ same => .draft (by simp [same])
  case h_31 => exact .pure (.draft (by simp))
  case h_34 => exact .throw trivial

end Builtin

end RecordCheck
