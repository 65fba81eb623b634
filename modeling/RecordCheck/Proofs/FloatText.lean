import RecordCheck.Proofs.SeventeenDigits

/-!
# Doubles as text

The text of a finite double is a decimal, in full or with a power of ten, behind at most one sign.
It is read as the number that it was made from, so that every double reads back from its text, and
also from its text without the zero behind the point.

## Main definitions

* `Reading.IsFloatChar`: the characters in the text of a finite double.
* `Decimal.Spelling`: the two ways in which a decimal is written.

## Main statements

* `Reading.decimal?_point`, `Reading.decimal?_whole`: digits with and without a point among them.
* `Decimal.spelling_layout`: how decimals are written.
* `readFloat?_text`, `readFloat?_bareText`: a double reads back.
-/
set_option autoImplicit false

namespace RecordCheck

namespace Reading

/-! ## Characters -/

/-- The characters in the text of a finite double. -/
def IsFloatChar (c : Char) : Prop := isSign c = true ∨ isAsciiDigit c = true ∨ c = '.' ∨ c = 'e'

theorem IsFloatChar.kept {c : Char} (plain : IsFloatChar c) :
    Text.isNumberBlank c.toNat = false ∧ plainDigit c = c := by
  rcases plain with signed | digit | rfl | rfl
  · exact kept_of_plain (.inl signed)
  · exact kept_of_plain (.inr digit)
  · decide
  · decide

theorem IsFloatChar.ne_break {c : Char} (plain : IsFloatChar c) : c ≠ '_' := by
  rintro rfl
  rcases plain with signed | digit | same | same
  · cases signed
  · cases digit
  · cases same
  · cases same

/-- A decimal behind at most one minus sign is read with its sign. -/
theorem readFloat?_of_decimal {c : Char} {cs : List Char} {d : Decimal}
    (plain : ∀ e ∈ c :: cs, IsFloatChar e) (digit : isAsciiDigit c = true)
    (read : decimal? (c :: cs) = some d) (negative : Bool) :
    readFloat? ((if negative then ['-'] else []) ++ c :: cs) =
      some (.ofDecimal negative d.digits d.exponent) := by
  have signed : ∀ e ∈ (if negative then ['-'] else []) ++ c :: cs, IsFloatChar e := by
    cases negative with
    | true => exact List.forall_mem_cons.2 ⟨.inl rfl, plain⟩
    | false => exact plain
  have split : sign (prepare ((if negative then ['-'] else []) ++ c :: cs)) =
      (negative, c :: cs) := by
    rw [prepare_of_kept fun e member => (signed e member).kept]
    cases negative with
    | true => rfl
    | false => exact sign_of_digit digit cs
  exact readFloat?_of_digit split digit (fun e member => (plain e member).ne_break) read

/-! ## Decimals -/

section Decimals

variable {whole fraction rest : List Char}

/-- No digit stands at the front. -/
def Stops (rest : List Char) : Prop := ∀ c ∈ rest.head?, isAsciiDigit c = false

theorem takeWhile_digits (digits : ∀ d ∈ whole, isAsciiDigit d = true) (stops : Stops rest) :
    (whole ++ rest).takeWhile isAsciiDigit = whole ∧
      (whole ++ rest).dropWhile isAsciiDigit = rest := by
  rw [List.takeWhile_append_of_pos digits, List.dropWhile_append_of_pos digits]
  cases rest with
  | nil => simp
  | cons c rest =>
    have noDigit := stops c rfl
    simp [noDigit]

theorem stops_nil : Stops [] := by simp [Stops]

/-- Digits around a point. -/
theorem decimal?_point (digits : ∀ d ∈ whole, isAsciiDigit d = true) (given : whole ≠ [])
    (digits' : ∀ d ∈ fraction, isAsciiDigit d = true) (stops : Stops rest) :
    decimal? (whole ++ '.' :: (fraction ++ rest)) = (exponent? rest).map fun e =>
      ⟨ofDigitText (whole ++ fraction), e - fraction.length⟩ := by
  have point : Stops ('.' :: (fraction ++ rest)) := by
    simp [Stops]
    rfl
  have first := takeWhile_digits digits point
  have second := takeWhile_digits digits' stops
  simp [decimal?, first, second, given]

/-- Digits without a point. -/
theorem decimal?_whole (digits : ∀ d ∈ whole, isAsciiDigit d = true) (given : whole ≠ [])
    (stops : Stops rest) (noPoint : ∀ c ∈ rest.head?, c ≠ '.') :
    decimal? (whole ++ rest) = (exponent? rest).map fun e => ⟨ofDigitText whole, e⟩ := by
  obtain ⟨taken, left⟩ := takeWhile_digits digits stops
  unfold decimal?
  simp only [taken, left]
  split
  · next ds point => exact absurd rfl (noPoint '.' (by simp))
  · simp [given]

/-- A power of ten behind a decimal. -/
theorem exponent?_power {negative : Bool} {power : List Char}
    (digits : ∀ d ∈ power, isAsciiDigit d = true) (given : power ≠ []) :
    exponent? ('e' :: (if negative then '-' else '+') :: power) =
      some (if negative then -(ofDigitText power : Int) else ofDigitText power) := by
  have all : power.all isAsciiDigit = true := List.all_eq_true.2 digits
  cases negative <;> simp [exponent?, sign, all, given]

/-! ## The value of digits -/

theorem ofDigitText_append (cs : List Char) {ds : List Char}
    (digits : ∀ d ∈ ds, isAsciiDigit d = true) :
    ofDigitText (cs ++ ds) = ofDigitText cs * 10 ^ ds.length + ofDigitText ds := by
  have fold (n : Nat) : (ds.filterMap Text.asciiDigit?).foldl (fun n d => 10 * n + d) n =
      n * 10 ^ ds.length + ofDigitText ds := by
    induction ds generalizing n with
    | nil => simp [ofDigitText, ofDigits]
    | cons d ds ih =>
      have ih := ih fun e member => digits e (by simp [member])
      have first := asciiDigit?_of_digit (digits d (by simp))
      rw [ofDigitText, ofDigits, List.filterMap_cons_some first, List.foldl_cons, List.foldl_cons,
        ih, ih, List.length_cons, pow_succ]
      ring
  rw [ofDigitText, ofDigits, List.filterMap_append, List.foldl_append, fold]
  rfl

theorem zeros_digits (k : Nat) : ∀ d ∈ List.replicate k '0', isAsciiDigit d = true := by
  intro d member
  obtain ⟨-, rfl⟩ := List.mem_replicate.1 member
  rfl

theorem ofDigitText_zeros (k : Nat) : ofDigitText (List.replicate k '0') = 0 :=
  (ofDigitText_eq_zero_iff (zeros_digits k)).2 fun _ member => (List.mem_replicate.1 member).2

theorem ofDigitText_append_zeros (cs : List Char) (k : Nat) :
    ofDigitText (cs ++ List.replicate k '0') = ofDigitText cs * 10 ^ k := by
  rw [ofDigitText_append cs (zeros_digits k), ofDigitText_zeros, Nat.add_zero,
    List.length_replicate]

theorem ofDigitText_zeros_append (k : Nat) {ds : List Char}
    (digits : ∀ d ∈ ds, isAsciiDigit d = true) :
    ofDigitText (List.replicate k '0' ++ ds) = ofDigitText ds := by
  rw [ofDigitText_append _ digits, ofDigitText_zeros, Nat.zero_mul, Nat.zero_add]

end Decimals

end Reading

namespace Decimal

open Reading Binary64

/-! ## Spelling -/

/-- Zeros at the end of the digits only move the point. -/
theorem units_shift (n k : Nat) (e : Int) : units ⟨n * 10 ^ k, e - k⟩ = units ⟨n, e⟩ := by
  have moved : spacing e = 10 ^ k * spacing (e - k) := by rw [← spacing_add, Int.sub_add_cancel]
  rw [units_eq, units_eq, moved]
  push_cast
  ring

/-- Text that is read as a number, which has to begin with a digit. -/
structure Reads (d : Decimal) (cs : List Char) : Prop where
  digit : ∃ c rest, cs = c :: rest ∧ isAsciiDigit c = true
  plain : ∀ c ∈ cs, IsFloatChar c
  read : ∃ d', decimal? cs = some d' ∧ d'.units = d.units

theorem Reads.readFloat? {d : Decimal} {cs : List Char} (reads : d.Reads cs) (negative : Bool) :
    RecordCheck.readFloat? ((if negative then ['-'] else []) ++ cs) =
      some (.ofDecimal negative d.digits d.exponent) := by
  obtain ⟨⟨c, rest, rfl, digit⟩, plain, d', read, same⟩ := reads
  rw [readFloat?_of_decimal plain digit read negative, ofDecimal_eq, ofDecimal_eq]
  exact congrArg (fun units => some (ofUnits negative (roundUnits units))) same

/-- The ways in which a decimal is written: in full, with digits on both sides of the point, or with
a power of ten. -/
inductive Spelling (d : Decimal) : List Char → Prop
  | full {whole fraction : List Char} (digits : ∀ c ∈ whole, isAsciiDigit c = true)
      (given : whole ≠ []) (digits' : ∀ c ∈ fraction, isAsciiDigit c = true)
      (given' : fraction ≠ [])
      (same : units ⟨ofDigitText (whole ++ fraction), 0 - fraction.length⟩ = d.units) :
      Spelling d (whole ++ '.' :: fraction)
  | scientific {whole fraction power : List Char} {negative : Bool}
      (digits : ∀ c ∈ whole, isAsciiDigit c = true) (given : whole ≠ [])
      (digits' : ∀ c ∈ fraction, isAsciiDigit c = true)
      (digits'' : ∀ c ∈ power, isAsciiDigit c = true) (two : 2 ≤ power.length)
      (same : units ⟨ofDigitText (whole ++ fraction),
        (if negative then -(ofDigitText power : Int) else ofDigitText power) - fraction.length⟩ =
          d.units) :
      Spelling d (whole ++ ((if fraction.isEmpty then [] else '.' :: fraction) ++
        'e' :: (if negative then '-' else '+') :: power))

variable {d : Decimal} {cs : List Char}

theorem exists_cons_of_digits {whole : List Char} (digits : ∀ c ∈ whole, isAsciiDigit c = true)
    (given : whole ≠ []) (rest : List Char) :
    ∃ c tail, whole ++ rest = c :: tail ∧ isAsciiDigit c = true := by
  cases whole with
  | nil => exact absurd rfl given
  | cons c whole => exact ⟨c, whole ++ rest, rfl, digits c (by simp)⟩

theorem Spelling.plain (spelling : d.Spelling cs) : ∀ c ∈ cs, IsFloatChar c := by
  have digit {ds : List Char} (digits : ∀ c ∈ ds, isAsciiDigit c = true) {c : Char}
      (member : c ∈ ds) : IsFloatChar c := .inr (.inl (digits c member))
  have point {fraction : List Char} (digits : ∀ c ∈ fraction, isAsciiDigit c = true) {c : Char}
      (member : c ∈ '.' :: fraction) : IsFloatChar c := by
    rcases List.mem_cons.1 member with rfl | member
    · exact .inr (.inr (.inl rfl))
    · exact digit digits member
  intro c member
  cases spelling with
  | full digits _ digits' =>
    rcases List.mem_append.1 member with member | member
    · exact digit digits member
    · exact point digits' member
  | @scientific whole fraction power negative digits _ digits' digits'' =>
    simp only [List.mem_append, List.mem_cons] at member
    rcases member with member | member | rfl | rfl | member
    · exact digit digits member
    · split at member
      · cases member
      · exact point digits' member
    · exact .inr (.inr (.inr rfl))
    · cases negative <;> exact .inl rfl
    · exact digit digits'' member

theorem Spelling.reads (spelling : d.Spelling cs) : d.Reads cs := by
  have plain := spelling.plain
  cases spelling with
  | full digits given digits' _ same =>
    have read := decimal?_point digits given digits' stops_nil
    exact ⟨exists_cons_of_digits digits given _, plain, _, by simpa [exponent?] using read, same⟩
  | @scientific whole fraction power negative digits given digits' digits'' two same =>
    have some : power ≠ [] := List.ne_nil_of_length_pos (by omega)
    have stops : Stops ('e' :: (if negative then '-' else '+') :: power) := by
      simp [Stops]
      rfl
    have exponent := @exponent?_power negative power digits'' some
    refine ⟨exists_cons_of_digits digits given _, plain, _, ?_, same⟩
    cases fraction with
    | nil =>
      have read := decimal?_whole digits given stops (by simp)
      simpa [exponent] using read
    | cons c fraction =>
      have read := decimal?_point digits given digits' stops
      simpa [exponent] using read

/-! ## The zero behind the point -/

/-- Text without a zero behind the point, if it ends in one. -/
def withoutZero (cs : List Char) : List Char :=
  if ['.', '0'].isSuffixOf cs then cs.take (cs.length - 2) else cs

theorem not_suffix_of_digits {before ds : List Char} (digits : ∀ c ∈ ds, isAsciiDigit c = true)
    (two : 2 ≤ ds.length) : ¬ ['.', '0'] <:+ before ++ ds := by
  intro suffix
  have inside := List.suffix_of_suffix_length_le suffix (List.suffix_append before ds) two
  cases digits '.' (inside.subset (by simp))

/-- A zero behind the point is all that can be left out. -/
theorem eq_zero_of_suffix {before fraction : List Char}
    (digits : ∀ c ∈ fraction, isAsciiDigit c = true) (given : fraction ≠ [])
    (suffix : ['.', '0'] <:+ before ++ '.' :: fraction) : fraction = ['0'] := by
  match fraction with
  | [] => exact absurd rfl given
  | [c] =>
    obtain ⟨front, same⟩ := suffix
    have tails := List.append_inj_right' same rfl
    rw [(List.cons.inj tails).2]
  | c :: c' :: more =>
    rw [List.append_cons] at suffix
    exact absurd suffix (not_suffix_of_digits digits (by simp))

/-- Nothing that counts is left out. -/
theorem Spelling.reads_withoutZero (spelling : d.Spelling cs) (before : List Char) :
    ∃ bare, withoutZero (before ++ cs) = before ++ bare ∧ d.Reads bare := by
  have reads := spelling.reads
  unfold withoutZero
  simp only [List.isSuffixOf_iff_suffix]
  by_cases suffix : ['.', '0'] <:+ before ++ cs
  · rw [if_pos suffix]
    cases spelling with
    | @full whole fraction digits given digits' given' same =>
      rw [← List.append_assoc] at suffix
      obtain rfl := eq_zero_of_suffix digits' given' suffix
      have front : (before ++ (whole ++ ['.', '0'])).take
          ((before ++ (whole ++ ['.', '0'])).length - 2) = before ++ whole := by
        rw [← List.append_assoc]
        refine List.take_left' ?_
        simp only [List.length_append, List.length_cons, List.length_nil]
        omega
      have read := decimal?_whole digits given stops_nil (by simp)
      have value : units ⟨ofDigitText whole, 0⟩ = d.units := by
        have read : ofDigitText (whole ++ ['0']) = ofDigitText whole * 10 ^ 1 :=
          ofDigitText_append_zeros whole 1
        rw [← same, read]
        exact (units_shift _ 1 0).symm
      refine ⟨whole, front, ?_, ?_, _, ?_, value⟩
      · simpa using exists_cons_of_digits digits given []
      · exact fun c member => .inr (.inl (digits c member))
      · simpa [exponent?] using read
    | scientific digits given digits' digits'' two =>
      rw [← List.append_assoc, ← List.append_assoc, List.append_cons, List.append_cons] at suffix
      exact absurd suffix (not_suffix_of_digits digits'' two)
  · exact ⟨cs, if_neg suffix, reads⟩

/-! ## Layout -/

section Layout

variable {ds : List Char} (digits : ∀ c ∈ ds, isAsciiDigit c = true) (given : ds ≠ [])
  (value : ofDigitText ds = d.digits)
include digits given value

/-- Zeros up to the point. -/
theorem spelling_of_nonneg {k : Nat} (exponent : d.exponent = k) :
    d.Spelling (ds ++ List.replicate k '0' ++ ['.', '0']) := by
  refine .full (List.forall_mem_append.2 ⟨digits, zeros_digits k⟩) (by simp [given])
    (zeros_digits 1) (by simp) ?_
  have read : ofDigitText (ds ++ List.replicate k '0' ++ ['0']) = d.digits * 10 ^ (k + 1) := by
    rw [List.append_assoc, ← List.replicate_succ', ofDigitText_append_zeros, value]
  have point : (0 : Int) - (['0'] : List Char).length = d.exponent - (k + 1 : Nat) := by
    rw [List.length_singleton]
    omega
  rw [read, point]
  exact units_shift d.digits (k + 1) d.exponent

/-- The point among the digits. -/
theorem spelling_of_inside {k : Nat} (positive : 0 < k) (less : k < ds.length)
    (exponent : d.exponent = k - ds.length) : d.Spelling (ds.take k ++ '.' :: ds.drop k) := by
  have point : (0 : Int) - (ds.drop k).length = d.exponent := by
    rw [List.length_drop]
    omega
  refine .full (fun c member => digits c (List.mem_of_mem_take member))
    (by simp [given, positive.ne']) (fun c member => digits c (List.mem_of_mem_drop member))
    (by simpa using less) ?_
  rw [List.take_append_drop, value, point]

/-- Zeros behind the point. -/
theorem spelling_of_below {k : Nat} (exponent : d.exponent = -(k + ds.length : Nat)) :
    d.Spelling ('0' :: '.' :: List.replicate k '0' ++ ds) := by
  have behind := List.forall_mem_append.2 ⟨zeros_digits k, digits⟩
  have read : ofDigitText (['0'] ++ (List.replicate k '0' ++ ds)) = d.digits :=
    (ofDigitText_zeros_append (k + 1) digits).trans value
  have point : (0 : Int) - (List.replicate k '0' ++ ds).length = d.exponent := by
    rw [List.length_append, List.length_replicate]
    omega
  have same : units ⟨ofDigitText (['0'] ++ (List.replicate k '0' ++ ds)),
      0 - (List.replicate k '0' ++ ds).length⟩ = d.units := by rw [read, point]
  exact .full (zeros_digits 1) (by simp) behind (by simp [given]) same

/-- A power of ten behind the digits. -/
theorem spelling_of_power {power : List Char} {negative : Bool}
    (digits' : ∀ c ∈ power, isAsciiDigit c = true) (two : 2 ≤ power.length)
    (exponent : d.exponent = (if negative then -(ofDigitText power : Int) else ofDigitText power) -
      (ds.length - 1 : Nat)) :
    d.Spelling (ds.take 1 ++ (if ds.length == 1 then [] else '.' :: ds.drop 1) ++
      ['e', if negative then '-' else '+'] ++ power) := by
  have single : (ds.length == 1) = (ds.drop 1).isEmpty := by
    have length := List.length_pos_iff.2 given
    rw [Bool.eq_iff_iff, beq_iff_eq, List.isEmpty_iff, List.drop_eq_nil_iff]
    omega
  have spelling := @Spelling.scientific d (ds.take 1) (ds.drop 1) power negative
    (fun c member => digits c (List.mem_of_mem_take member)) (by simp [given])
    (fun c member => digits c (List.mem_of_mem_drop member)) digits' two
    (by rw [List.take_append_drop, value, List.length_drop, ← exponent])
  simpa [single] using spelling

end Layout

/-- A power of ten is written with two digits at least. -/
theorem padded_digits (n : Nat) :
    let padded := if (digitText n).length < 2 then '0' :: digitText n else digitText n
    (∀ c ∈ padded, isAsciiDigit c = true) ∧ 2 ≤ padded.length ∧ ofDigitText padded = n := by
  have digits := digitText_digits n
  have value := ofDigitText_digitText n
  have length : 0 < (digitText n).length := List.length_pos_iff.2 (digitText_ne_nil n)
  intro padded
  by_cases short : (digitText n).length < 2
  · simp only [padded, if_pos short]
    exact ⟨List.forall_mem_cons.2 ⟨rfl, digits⟩, Nat.succ_le_succ length,
      (ofDigitText_zeros_append 1 digits).trans value⟩
  · simp only [padded, if_neg short]
    exact ⟨digits, by omega, value⟩

/-- How a decimal is written. -/
theorem spelling_layout (d : Decimal) : d.Spelling (layout d) := by
  have digits := digitText_digits d.digits
  have given := digitText_ne_nil d.digits
  have value := ofDigitText_digitText d.digits
  unfold layout
  generalize digitText d.digits = ds at *
  dsimp only
  have length : 0 < ds.length := List.length_pos_iff.2 given
  by_cases inFull : (decide (-4 ≤ (ds.length : Int) + d.exponent - 1) &&
      decide ((ds.length : Int) + d.exponent - 1 < 16)) = true
  · rw [if_pos inFull]
    by_cases whole : 0 ≤ d.exponent
    · rw [if_pos whole]
      exact spelling_of_nonneg digits given value (Int.toNat_of_nonneg whole).symm
    · rw [if_neg whole]
      by_cases inside : 0 ≤ (ds.length : Int) + d.exponent - 1
      · rw [if_pos inside]
        exact spelling_of_inside digits given value (by omega) (by omega) (by omega)
      · rw [if_neg inside]
        exact spelling_of_below digits given value (by omega)
  · rw [if_neg inFull]
    obtain ⟨digits', two, value'⟩ := padded_digits ((ds.length : Int) + d.exponent - 1).natAbs
    have signed (z : Int) : (if decide (z < 0) then -(z.natAbs : Int) else z.natAbs) = z := by
      by_cases below : z < 0
      · rw [if_pos (decide_eq_true below)]
        omega
      · rw [if_neg (by simpa using below)]
        omega
    have exponent : d.exponent = (if decide ((ds.length : Int) + d.exponent - 1 < 0) then
        -(((ds.length : Int) + d.exponent - 1).natAbs : Int)
      else ((ds.length : Int) + d.exponent - 1).natAbs) - (ds.length - 1 : Nat) := by
      rw [signed]
      omega
    rw [← value'] at exponent
    have spelling := spelling_of_power digits given value digits' two exponent
    simpa using spelling

end Decimal

/-! ## The text of a double -/

namespace Binary64

variable {x : Binary64}

/-- The text of a finite double is a decimal that stands for it, behind its sign. -/
theorem exists_spelling (finite : x.isFinite = true) : ∃ (negative : Bool) (d : Decimal)
    (cs : List Char), x.text.toList = (if negative then ['-'] else []) ++ cs ∧
      d.Spelling cs ∧ ofDecimal negative d.digits d.exponent = x := by
  cases x with
  | finite negative units representable =>
    have spelt : (text (.finite negative units representable)).toList =
        (if negative then ['-'] else []) ++
          if units = 0 then ['0', '.', '0'] else layout (shortest units) := by
      rw [text, String.toList_ofList]
      cases negative <;> rfl
    rcases Nat.eq_zero_or_pos units with rfl | positive
    · refine ⟨negative, ⟨0, 0⟩, _, spelt, ?_, rfl⟩
      have zero := Reading.zeros_digits 1
      have nothing : Reading.ofDigitText ['0', '0'] = 0 := rfl
      have same : Decimal.units ⟨Reading.ofDigitText (['0'] ++ ['0']), 0 - (['0'].length : Nat)⟩ =
          Decimal.units ⟨0, 0⟩ := by
        rw [List.singleton_append, nothing, units_zero, units_zero]
      exact .full zero (by simp) zero (by simp) same
    · rw [if_neg positive.ne'] at spelt
      exact ⟨negative, shortest units, _, spelt, Decimal.spelling_layout _,
        ofDecimal_shortest positive representable negative⟩
  | infinite => cases finite
  | nan => cases finite

end Binary64

open Binary64

/-- Every finite double is what its text reads as. -/
theorem readFloat?_text {x : Binary64} (finite : x.isFinite = true) :
    readFloat? x.text.toList = some x := by
  obtain ⟨negative, d, cs, spelt, spelling, rfl⟩ := exists_spelling finite
  rw [spelt]
  exact spelling.reads.readFloat? negative

/-- Nothing is lost with the zero behind the point. -/
theorem readFloat?_bareText {x : Binary64} (finite : x.isFinite = true) :
    readFloat? x.bareText = some x := by
  obtain ⟨negative, d, cs, spelt, spelling, same⟩ := exists_spelling finite
  obtain ⟨bare, left, reads⟩ := spelling.reads_withoutZero (if negative then ['-'] else [])
  have cut : x.bareText = (if negative then ['-'] else []) ++ bare := by
    rw [← left, ← spelt]
    rfl
  rw [cut, reads.readFloat? negative, same]

end RecordCheck
