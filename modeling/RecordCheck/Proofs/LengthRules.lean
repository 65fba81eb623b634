import RecordCheck.Proofs.EqualLeaves
import RecordCheck.Proofs.Fit
import RecordCheck.Proofs.Utf8

/-!
# Rules about the length of text

What is measured is the number of code points, so text and its bytes are judged alike by every rule
about lengths. Two bounds are an upper and a lower one, in whichever order they are given, and a
single length is both.

## Main definitions

* `Length.IsMade`: the rules about lengths that can be made for an encoding.

## Main statements

* `Length.measure_bytes`: the length of bytes where no encoding is given.
* `Rule.length_apply`: what a rule about lengths reports.
* `Rule.length_between_apply`, `Rule.length_exactly_apply`: two bounds, and a single length.
* `Rule.length_rules`: text, its bytes, bytes that are no text, and pairs of bounds.
-/
set_option autoImplicit false

namespace RecordCheck

open Act

namespace Length

/-! ## Measuring -/

/-- Bytes are as long as the text that they are read as. -/
theorem measure_bytes (data : List UInt8) :
    measure defaultEncoding (.bytes data) = .ok ((Text.Utf8.decode? data).map (·.length)) := by
  have noBreak : ("UTF-8".toList.contains '\x00') = false := by decide
  simp only [measure, ofBytes, defaultEncoding, noBreak, ofName?_default, Bool.false_eq_true,
    if_false]
  cases data with
  | nil => rw [List.isEmpty_nil, if_pos rfl, Text.Utf8.decode?, Option.map_some, List.length_nil]
  | cons b data =>
    rw [List.isEmpty_cons, if_neg Bool.false_ne_true, Text.Encoding.count]
    cases Text.Utf8.decode? (b :: data) <;> rfl

/-- The bytes of a text are as long as the text. -/
theorem measure_toUTF8 (s : String) :
    measure defaultEncoding (.bytes s.toUTF8.data.toList) = measure defaultEncoding (.str s) := by
  rw [measure_bytes, Text.Utf8.decode?_toUTF8, Option.map_some, String.length_toList, measure]

/-- Bytes that are no text have no length. -/
theorem measure_invalid {data : List UInt8} (invalid : ¬ data.toByteArray.IsValidUTF8) :
    measure defaultEncoding (.bytes data) = .ok none := by
  rw [measure_bytes, Text.Utf8.decode?_eq_none_iff.2 invalid, Option.map_none]

theorem judge_congr {l : Length} {v w : Value}
    (same : measure l.encoding v = measure l.encoding w) : l.judge v = l.judge w := by
  rw [judge, judge, same]

/-! ## Rules that can be made -/

/-- The rules about lengths that can be made for an encoding. -/
inductive IsMade (encoding : Value) (l : Length) : Prop
  | atMost {n : Value} : Length.atMost n encoding = .ok l → IsMade encoding l
  | atLeast {n : Value} : Length.atLeast n encoding = .ok l → IsMade encoding l
  | exactly {n : Value} : Length.exactly n encoding = .ok l → IsMade encoding l
  | between {a b : Value} : Length.between a b encoding = .ok l → IsMade encoding l

theorem IsMade.plain {encoding : Value} {l : Length} (made : IsMade encoding l) :
    l.encoding = encoding ∧ ∀ m xs, l.bounds ≠ .stream m xs := by
  cases made with
  | atMost made | atLeast made | exactly made =>
    obtain ⟨n, -, rfl⟩ := exists_of_map_ok made
    exact ⟨rfl, by simp⟩
  | @between a b made =>
    cases one : wholeOf a <;> cases two : wholeOf b <;> rw [Length.between, one, two] at made
    case ok.ok =>
      obtain rfl := Except.ok.inj made
      exact ⟨rfl, by simp⟩
    all_goals cases made

/-- A whole number as the upper bound. -/
theorem above_int (high : Int) (length : Nat) :
    above (.int high) length = .ok (if high < length then some Code.tooLong else none) := by
  simp only [above, boundOf, Value.number?, bind, Except.bind, pure, Except.pure,
    Number.int_lt_int, decide_eq_true_eq]

/-- The upper bound is judged first, and then the lower one. -/
theorem judge_between (low high : Int) (encoding v : Value) :
    judge ⟨.between, .tuple [.int low, .int high], encoding⟩ v = (do
      match ← judge ⟨.atMost, .int high, encoding⟩ v with
      | some code => return some code
      | none => judge ⟨.atLeast, .int low, encoding⟩ v) := by
  cases measured : measure encoding v with
  | error e =>
    simp only [judge, measured]
    rfl
  | ok length =>
    cases length with
    | none =>
      simp only [judge, measured]
      rfl
    | some length =>
      simp only [judge, measured, bind, Except.bind, onLength]
      rfl

theorem judge_exactly (n : Int) (encoding v : Value) :
    judge ⟨.exactly, .int n, encoding⟩ v =
      judge ⟨.between, .tuple [.int n, .int n], encoding⟩ v := by
  rw [judge, judge]
  rfl

end Length

namespace Rule

open Length

/-- A rule about lengths reports what it judges, unless its bounds are a stream. -/
theorem length_apply {l : Length} (plain : ∀ m xs, l.bounds ≠ .stream m xs) (v record : Value) :
    (Rule.length l).apply v record = liftM ((l.judge v).map reportOf) := by
  rw [Rule.apply, apply_of_notStream plain]
  cases l.judge v <;> rfl

theorem length_congr {l : Length} (plain : ∀ m xs, l.bounds ≠ .stream m xs) {v w : Value}
    (same : measure l.encoding v = measure l.encoding w) (record : Value) :
    (Rule.length l).apply v record = (Rule.length l).apply w record := by
  rw [length_apply plain, length_apply plain, judge_congr same]

/-- What has no length has the wrong format. -/
theorem length_of_none {l : Length} (plain : ∀ m xs, l.bounds ≠ .stream m xs) {v : Value}
    (none : measure l.encoding v = .ok none) (record : Value) :
    (Rule.length l).apply v record = pure (reportOf (some Code.formatError)) := by
  rw [length_apply plain, judge, none]
  rfl

theorem length_between_apply (low high : Int) (encoding v record : Value) :
    (Rule.length ⟨.between, .tuple [.int low, .int high], encoding⟩).apply v record =
      firstOf ((Rule.length ⟨.atMost, .int high, encoding⟩).apply v record)
        ((Rule.length ⟨.atLeast, .int low, encoding⟩).apply v record) := by
  rw [length_apply (by simp), length_apply (by simp), length_apply (by simp), judge_between]
  cases Length.judge ⟨.atMost, .int high, encoding⟩ v with
  | error e => rfl
  | ok code => cases code <;> rfl

theorem length_exactly_apply (n : Int) (encoding v record : Value) :
    (Rule.length ⟨.exactly, .int n, encoding⟩).apply v record =
      (Rule.length ⟨.between, .tuple [.int n, .int n], encoding⟩).apply v record := by
  rw [length_apply (by simp), length_apply (by simp), judge_exactly]

/-- Every rule about lengths that is made without an encoding judges a text by the number of its
code points, the bytes of the text like the text, and has the wrong format for bytes that are those
of no text. With any encoding, two bounds in either order make one rule, which reports what the
upper bound has to report and otherwise what the lower one has, and a single length is both
bounds. -/
theorem length_rules {l : Length} (made : IsMade defaultEncoding l) (a b n : Int)
    (encoding record : Value) :
    (∀ s t : String, s.length = t.length →
      (Rule.length l).apply (.str s) record = (Rule.length l).apply (.str t) record) ∧
    (∀ s : String, ∀ v, v = .bytes s.toUTF8.data.toList ∨ v = .bytearray s.toUTF8.data.toList →
      (Rule.length l).apply v record = (Rule.length l).apply (.str s) record) ∧
    (∀ data : List UInt8, ¬ data.toByteArray.IsValidUTF8 →
      ∀ v, v = .bytes data ∨ v = .bytearray data →
        (Rule.length l).apply v record = pure (some (.ofCode (.str Code.formatError)))) ∧
    (∃ both most least, between (.int a) (.int b) encoding = .ok both ∧
      between (.int b) (.int a) encoding = .ok both ∧
      atMost (.int (max a b)) encoding = .ok most ∧ atLeast (.int (min a b)) encoding = .ok least ∧
      ∀ v, (Rule.length both).apply v record =
        firstOf ((Rule.length most).apply v record) ((Rule.length least).apply v record)) ∧
    ∃ one both, exactly (.int n) encoding = .ok one ∧
      between (.int n) (.int n) encoding = .ok both ∧
      ∀ v, (Rule.length one).apply v record = (Rule.length both).apply v record := by
  obtain ⟨own, plain⟩ := made.plain
  refine ⟨?_, ?_, ?_, ?_, ?_⟩
  · intro s t same
    refine length_congr plain ?_ record
    rw [Length.measure, Length.measure, same]
  · intro s v bytes
    refine length_congr plain ?_ record
    rcases bytes with rfl | rfl <;> exact own ▸ measure_toUTF8 s
  · intro data invalid v bytes
    refine length_of_none plain ?_ record
    rcases bytes with rfl | rfl <;> exact own ▸ measure_invalid invalid
  · refine ⟨_, _, _, rfl, ?_, rfl, rfl, fun v => length_between_apply _ _ _ v record⟩
    rw [between, min_comm, max_comm]
    rfl
  · refine ⟨_, _, rfl, rfl, fun v => ?_⟩
    rw [length_exactly_apply, min_self, max_self]

/-- Five characters are too long for a limit of four, as text and as bytes, and a byte that starts
no character is no text. -/
theorem length_rules_of_limit :
    let l : Length := ⟨.atMost, .int 4, defaultEncoding⟩
    IsMade defaultEncoding l ∧ ¬ [0xE5].toByteArray.IsValidUTF8 ∧
    (Rule.length l).apply (.bytes "努力と根性".toUTF8.data.toList) .null =
      pure (some (.ofCode (.str Code.tooLong))) ∧
    (Rule.length l).apply (.bytearray [0xE5]) .null =
      pure (some (.ofCode (.str Code.formatError))) := by
  intro l
  have made : IsMade defaultEncoding l := .atMost (n := .int 4) rfl
  have invalid : ¬ [0xE5].toByteArray.IsValidUTF8 := Text.Utf8.decode?_eq_none_iff.1 (by decide)
  obtain ⟨-, bytes, none, -⟩ := length_rules made 0 0 0 .null .null
  refine ⟨made, invalid, (bytes _ _ (.inl rfl)).trans ?_, none _ invalid _ (.inr rfl)⟩
  have judged : l.judge (.str "努力と根性") = .ok (some Code.tooLong) := above_int 4 5
  rw [length_apply (by simp [l]), judged]
  rfl

end Rule

end RecordCheck
