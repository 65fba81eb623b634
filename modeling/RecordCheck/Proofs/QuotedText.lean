import Mathlib.Data.List.Chain
import RecordCheck.Json.Printer
import RecordCheck.Json.Reader
import RecordCheck.Proofs.Outcome

/-!
# Text between quotes

Text that is printed between quotes is read back as it was: escapes are undone one by one, and the
two units that a character outside the basic plane is printed as are put together again. Whatever is
read between quotes is text of this kind.

## Main definitions

* `Value.IsText`: text in which no two code points would be one character.
* `Json.units`: the units of sixteen bits that a code point is printed as.

## Main statements

* `Json.readText_quoted`, `Json.textOf_units`: text is read back as it was.
* `Json.isText_of_readText`: what is read between quotes is text.
-/
set_option autoImplicit false

namespace RecordCheck

/-- A unit that is the first half of a character outside the basic plane. -/
abbrev Json.IsHigh (code : Nat) : Prop := 0xD800 ≤ code ∧ code < 0xDC00

/-- A unit that is the second half of a character outside the basic plane. -/
abbrev Json.IsLow (code : Nat) : Prop := 0xDC00 ≤ code ∧ code < 0xE000

/-- Code points of which no two are the halves of one character. -/
def Json.AreJoined (codes : List Nat) : Prop :=
  (∀ code ∈ codes, code < 0x110000) ∧ codes.IsChain fun u v => ¬ (IsHigh u ∧ IsLow v)

/-- Text, with surrogates only where they stand without a partner. -/
def Value.IsText : Value → Prop
  | .str _ => True
  | .brokenStr codes => (∃ code ∈ codes, 0xD800 ≤ code ∧ code < 0xE000) ∧ Json.AreJoined codes
  | _ => False

theorem Value.IsText.isStr {v : Value} (h : v.IsText) : v.isStr := by
  cases v with
  | str | brokenStr => rfl
  | _ => exact h.elim

/-- The code points of a text. -/
def Value.codes : Value → List Nat
  | .str s => s.toList.map Char.toNat
  | .brokenStr codes => codes
  | _ => []

namespace Json

/-! ## Printing -/

theorem toNat_lt (c : Char) : c.toNat < 0x110000 ∧ ¬ (0xD800 ≤ c.toNat ∧ c.toNat < 0xE000) := by
  have valid : c.toNat < 0xD800 ∨ 0xDFFF < c.toNat ∧ c.toNat < 0x110000 := c.valid
  omega

/-- The escape of a code point. -/
def escapeCode (code : Nat) : List Char :=
  if code.isValidChar then escapeChar (Char.ofNat code) else unitEscape code

theorem escapeCode_toNat (c : Char) : escapeCode c.toNat = escapeChar c := by
  have valid : c.toNat.isValidChar := c.valid
  rw [escapeCode, if_pos valid, Char.ofNat_toNat]

/-- The characters of a text as it is printed. -/
def quoted (v : Value) : List Char := '"' :: v.codes.flatMap escapeCode ++ ['"']

theorem print_quoted {v : Value} (isStr : v.isStr) :
    print v = .ok (String.ofList (quoted v)) ∧ key v = .ok (String.ofList (quoted v)) := by
  cases v with
  | str s =>
    have same : escape s.toList = (s.toList.map Char.toNat).flatMap escapeCode := by
      simp [escape, List.flatMap_map, escapeCode_toNat]
    simp only [print, key, quote, same, quoted, Value.codes, and_self]
  | brokenStr codes => exact ⟨rfl, rfl⟩
  | _ => cases isStr

/-- The units of sixteen bits that a code point is printed as, where it has to be escaped. -/
def units (code : Nat) : List Nat :=
  if code < 0x10000 then [code]
  else [0xD800 + (code - 0x10000) / 0x400, 0xDC00 + (code - 0x10000) % 0x400]

theorem units_lt {code : Nat} (bounded : code < 0x110000) :
    ∀ unit ∈ units code, unit < 0x10000 := by
  unfold units
  split
  · simpa
  · simp only [List.forall_mem_cons]
    exact ⟨by omega, by omega, by simp⟩

/-- What a code point is printed as: its character, an escape with a letter, or its units. -/
inductive Shown (code : Nat) : List Char → Prop
  | plain {c : Char} : c.toNat = code → c ≠ '"' → c ≠ '\\' → 0x20 ≤ code → code < 0x7F →
    Shown code [c]
  | letter {l c : Char} : c.toNat = code → l ≠ 'u' → letterEscape? l = some c → code < 0x7F →
    Shown code ['\\', l]
  | units : Shown code ((units code).flatMap unitEscape)

theorem shown_escapeChar (c : Char) : Shown c.toNat (escapeChar c) := by
  have bound := (toNat_lt c).1
  unfold escapeChar
  split
  · next special =>
    obtain rfl | rfl : c = '"' ∨ c = '\\' := by simpa using special
    · exact .letter rfl (by decide) rfl (by decide)
    · exact .letter rfl (by decide) rfl (by decide)
  iterate 5
    split
    · next same =>
      obtain rfl := eq_of_beq same
      exact .letter rfl (by decide) rfl (by decide)
  dsimp only
  split
  · next noSpecial _ _ _ _ _ plain =>
    obtain ⟨noQuote, noBackslash⟩ : c ≠ '"' ∧ c ≠ '\\' := by simpa using noSpecial
    obtain ⟨low, high⟩ : 0x20 ≤ c.toNat ∧ c.toNat < 0x7F := by simpa using plain
    exact .plain rfl noQuote noBackslash low high
  have whole : Shown c.toNat ((units c.toNat).flatMap unitEscape) := .units
  split
  · next small => simpa [units, small] using whole
  · next large => simpa [units, large] using whole

theorem shown_escapeCode {code : Nat} (bounded : code < 0x110000) :
    Shown code (escapeCode code) := by
  rw [escapeCode]
  split
  · next valid =>
    have same : (Char.ofNat code).toNat = code := by
      rw [Char.ofNat, dif_pos valid]
      rfl
    simpa [same] using shown_escapeChar (Char.ofNat code)
  · next invalid =>
    have small : code < 0x10000 := by
      simp only [Nat.isValidChar] at invalid
      omega
    have whole : Shown code ((units code).flatMap unitEscape) := .units
    simpa [units, small] using whole

/-! ## Reading units -/

theorem hexValue?_hexDigit : ∀ n < 16, hexValue? (Text.hexDigit n) = some n := by decide

theorem unit?_hexText {unit : Nat} (small : unit < 0x10000) (rest : List Char) :
    unit? (Text.hexText unit 4 ++ rest) = some (unit, rest) := by
  have digit (n : Nat) : hexValue? (Text.hexDigit (n % 16)) = some (n % 16) :=
    hexValue?_hexDigit _ (Nat.mod_lt _ (by decide))
  simp only [Text.hexText, List.nil_append, List.cons_append, unit?, digit, Option.some.injEq,
    Prod.mk.injEq, and_true]
  omega

/-- Text that goes on, and if it goes on with the escape of a unit, then with all of it. -/
def GoesOn (tail : List Char) : Prop :=
  tail ≠ [] ∧ ∀ after, tail = '\\' :: 'u' :: after → (unit? after).isSome

theorem goesOn_unit {unit : Nat} (small : unit < 0x10000) (tail : List Char) :
    GoesOn (unitEscape unit ++ tail) := by
  refine ⟨by simp [unitEscape], fun after same => ?_⟩
  simp only [unitEscape, List.cons_append, List.cons.injEq, true_and] at same
  rw [← same, unit?_hexText small]
  rfl

theorem goesOn_units {us : List Nat} (small : ∀ unit ∈ us, unit < 0x10000) {tail : List Char}
    (goesOn : GoesOn tail) : GoesOn (us.flatMap unitEscape ++ tail) := by
  cases us with
  | nil => exact goesOn
  | cons unit us =>
    rw [List.flatMap_cons, List.append_assoc]
    exact goesOn_unit (small unit (.head _)) _

theorem goesOn_shown {code : Nat} (bounded : code < 0x110000) {cs tail : List Char}
    (shown : Shown code cs) (goesOn : GoesOn tail) : GoesOn (cs ++ tail) := by
  cases shown with
  | plain _ _ noBackslash => exact ⟨by simp, by simp [noBackslash]⟩
  | letter _ noUnit => exact ⟨by simp, by simp [noUnit]⟩
  | units => exact goesOn_units (units_lt bounded) goesOn

theorem goesOn_codes {codes : List Nat} (bounded : ∀ code ∈ codes, code < 0x110000)
    (rest : List Char) : GoesOn (codes.flatMap escapeCode ++ '"' :: rest) := by
  induction codes with
  | nil => exact ⟨by simp, by simp⟩
  | cons code codes ih =>
    obtain ⟨first, others⟩ := List.forall_mem_cons.1 bounded
    rw [List.flatMap_cons, List.append_assoc]
    exact goesOn_shown first (shown_escapeCode first) (ih others)

section Reading

variable {start fuel : Nat} {tail : List Char}

theorem readText_unit {unit : Nat} (small : unit < 0x10000) (goesOn : GoesOn tail) :
    readText start (fuel + 1) (unitEscape unit ++ tail) =
      (readText start fuel tail).map fun (codes, rest) => (unit :: codes, rest) := by
  obtain ⟨some, whole⟩ := goesOn
  have long : ¬ (Text.hexText unit 4 ++ tail).length < 5 := by
    have := List.length_pos_of_ne_nil some
    simp [Text.hexText]
    omega
  rw [unitEscape, List.cons_append, List.cons_append, readText, if_neg long, unit?_hexText small]
  dsimp only
  split
  · next after _ =>
    have isSome := whole after rfl
    rw [if_neg (by simp [Option.isSome_iff_ne_none.1 isSome])]
  · rfl

theorem readText_units {us : List Nat} (small : ∀ unit ∈ us, unit < 0x10000)
    (goesOn : GoesOn tail) :
    readText start (fuel + us.length) (us.flatMap unitEscape ++ tail) =
      (readText start fuel tail).map fun (codes, rest) => (us ++ codes, rest) := by
  induction us with
  | nil => cases read : readText start fuel tail <;> simp [read, Except.map]
  | cons unit us ih =>
    obtain ⟨first, others⟩ := List.forall_mem_cons.1 small
    rw [List.flatMap_cons, List.append_assoc, List.length_cons, ← Nat.add_assoc,
      readText_unit first (goesOn_units others goesOn), ih others]
    cases readText start fuel tail <;> rfl

/-- What a code point is printed as is read as its units, in no more steps than characters. -/
theorem readText_shown (start : Nat) {code : Nat} (bounded : code < 0x110000) {cs : List Char}
    (shown : Shown code cs) (goesOn : GoesOn tail) (enough : cs.length ≤ fuel) :
    ∃ left, fuel ≤ left + cs.length ∧ readText start fuel (cs ++ tail) =
      (readText start left tail).map fun (codes, rest) => (units code ++ codes, rest) := by
  have small (low : code < 0x7F) : units code = [code] := by rw [units, if_pos (by omega)]
  cases shown with
  | @plain c same noQuote noBackslash visible low =>
    obtain ⟨left, rfl⟩ := Nat.exists_eq_add_of_le' enough
    refine ⟨left, Nat.le_refl _, ?_⟩
    rw [small low, List.singleton_append, List.length_singleton, readText.eq_def]
    split <;> simp_all
  | @letter l c same _ isLetter low =>
    obtain ⟨left, rfl⟩ := Nat.exists_eq_add_of_le' enough
    refine ⟨left + 1, by simp, ?_⟩
    have read : readText start (left + 1 + 1) ('\\' :: l :: tail) =
        (readText start (left + 1) tail).map fun (codes, rest) => (c.toNat :: codes, rest) := by
      simp [readText, isLetter]
    rw [small low, ← same]
    exact read
  | units =>
    have length : (units code).length ≤ ((units code).flatMap unitEscape).length := by
      generalize units code = us
      induction us with
      | nil => simp
      | cons unit us ih =>
        rw [List.flatMap_cons, List.length_append, List.length_cons, unitEscape]
        simp only [List.length_cons]
        omega
    obtain ⟨left, rfl⟩ := Nat.exists_eq_add_of_le' (Nat.le_trans length enough)
    exact ⟨left, by omega, readText_units (units_lt bounded) goesOn⟩

/-- The units of a text are read up to the closing quote. -/
theorem readText_codes {codes : List Nat} (bounded : ∀ code ∈ codes, code < 0x110000)
    (rest : List Char) (enough : (codes.flatMap escapeCode).length < fuel) :
    readText start fuel (codes.flatMap escapeCode ++ '"' :: rest) =
      .ok (codes.flatMap units, rest) := by
  induction codes generalizing fuel with
  | nil =>
    obtain ⟨fuel, rfl⟩ := Nat.exists_eq_succ_of_ne_zero (Nat.ne_of_gt (Nat.zero_lt_of_lt enough))
    rfl
  | cons code codes ih =>
    obtain ⟨first, others⟩ := List.forall_mem_cons.1 bounded
    rw [List.flatMap_cons, List.length_append] at enough
    obtain ⟨left, less, step⟩ := readText_shown start first (shown_escapeCode first)
      (goesOn_codes others rest) (show (escapeCode code).length ≤ fuel by omega)
    rw [List.flatMap_cons, List.append_assoc, step, ih others (by omega)]
    rfl

end Reading

/-! ## Putting units together -/

theorem joinSurrogates_cons {u : Nat} {rest : List Nat}
    (alone : ∀ v ∈ rest.head?, ¬ (IsHigh u ∧ IsLow v)) :
    joinSurrogates (u :: rest) = u :: joinSurrogates rest := by
  cases rest with
  | nil => rfl
  | cons v rest =>
    have separate : ¬ (IsHigh u ∧ IsLow v) := alone v rfl
    rw [joinSurrogates, if_neg]
    simp only [Bool.and_eq_true, decide_eq_true_eq]
    omega

theorem joinSurrogates_units {codes : List Nat} (joined : AreJoined codes) :
    joinSurrogates (codes.flatMap units) = codes := by
  induction codes with
  | nil => rfl
  | cons code codes ih =>
    obtain ⟨bounded, separate⟩ := joined
    obtain ⟨first, others⟩ := List.forall_mem_cons.1 bounded
    obtain ⟨apart, rest⟩ := List.isChain_cons.1 separate
    have tail := ih ⟨others, rest⟩
    rw [List.flatMap_cons, units]
    split
    · rw [List.singleton_append, joinSurrogates_cons, tail]
      intro unit isHead
      cases codes with
      | nil => cases isHead
      | cons next codes =>
        have separate := apart next rfl
        have bound := others next (.head _)
        rw [List.flatMap_cons, units] at isHead
        split at isHead
        all_goals
          obtain rfl := Option.some.inj isHead
          omega
    · next large =>
      have whole : 0x10000 + (0xD800 + (code - 0x10000) / 0x400 - 0xD800) * 0x400 +
          (0xDC00 + (code - 0x10000) % 0x400 - 0xDC00) = code := by omega
      rw [List.cons_append, List.singleton_append, joinSurrogates, if_pos, tail, whole]
      simp only [Bool.and_eq_true, decide_eq_true_eq]
      omega

/-- A text is what its units are put together to. -/
theorem textOf_units {v : Value} (isText : v.IsText) : textOf (v.codes.flatMap units) = v := by
  cases v with
  | str s =>
    have plain : ∀ code ∈ (Value.str s).codes, ¬ (0xD800 ≤ code ∧ code < 0xE000) := by
      intro code member
      obtain ⟨c, -, rfl⟩ := List.mem_map.1 member
      exact (toNat_lt c).2
    have joined : AreJoined (Value.str s).codes := by
      refine ⟨fun code member => ?_, ?_⟩
      · obtain ⟨c, -, rfl⟩ := List.mem_map.1 member
        exact (toNat_lt c).1
      · refine (List.pairwise_of_forall_mem_list fun u hu v _ => ?_).isChain
        have := plain u hu
        omega
    have whole : ¬ (Value.str s).codes.any fun code => 0xD800 ≤ code && code < 0xE000 := by
      simpa using plain
    rw [textOf, joinSurrogates_units joined, if_neg whole, Value.codes, List.map_map]
    simp [Function.comp_def, Char.ofNat_toNat]
  | brokenStr codes =>
    obtain ⟨broken, joined⟩ := isText
    have any : codes.any fun code => 0xD800 ≤ code && code < 0xE000 := by simpa using broken
    rw [Value.codes, textOf, joinSurrogates_units joined]
    exact if_pos any
  | _ => exact isText.elim

/-- A text is read back as it was printed. -/
theorem readText_quoted {v : Value} (isText : v.IsText) (fuel : Nat) (rest : List Char)
    (enough : (quoted v).length ≤ fuel + 1) : ∃ tail codes, quoted v ++ rest = '"' :: tail ∧
      (∀ start, readText start fuel tail = .ok (codes, rest)) ∧ textOf codes = v := by
  have bounded : ∀ code ∈ v.codes, code < 0x110000 := by
    cases v with
    | str s =>
      intro code member
      obtain ⟨c, -, rfl⟩ := List.mem_map.1 member
      exact (toNat_lt c).1
    | brokenStr codes => exact isText.2.1
    | _ => exact isText.elim
  have less : (v.codes.flatMap escapeCode).length < fuel := by
    simp only [quoted, List.length_append, List.length_cons, List.length_nil] at enough
    omega
  exact ⟨v.codes.flatMap escapeCode ++ '"' :: rest, _, by simp [quoted],
    fun _ => readText_codes bounded rest less, textOf_units isText⟩

/-! ## What is read -/

theorem head_joinSurrogates {v w : Nat} {rest : List Nat}
    (isHead : w ∈ (joinSurrogates (v :: rest)).head?) : w = v ∨ 0x10000 ≤ w := by
  cases rest with
  | nil => exact .inl (Option.some.inj isHead).symm
  | cons u rest =>
    rw [joinSurrogates] at isHead
    split at isHead
    · have := Option.some.inj isHead
      omega
    · exact .inl (Option.some.inj isHead).symm

theorem areJoined_joinSurrogates {codes : List Nat} (bounded : ∀ code ∈ codes, code < 0x110000) :
    AreJoined (joinSurrogates codes) := by
  induction codes using joinSurrogates.induct with
  | case1 u v rest pair ih =>
    obtain ⟨high, low, others⟩ := (List.forall_mem_cons.1 bounded).imp_right List.forall_mem_cons.1
    obtain ⟨bound, chain⟩ := ih others
    simp only [Bool.and_eq_true, decide_eq_true_eq] at pair
    rw [joinSurrogates, if_pos (by simpa using pair)]
    refine ⟨List.forall_mem_cons.2 ⟨by omega, bound⟩, List.isChain_cons.2 ⟨fun w _ => ?_, chain⟩⟩
    omega
  | case2 u v rest single ih =>
    obtain ⟨first, others⟩ := List.forall_mem_cons.1 bounded
    obtain ⟨bound, chain⟩ := ih others
    rw [joinSurrogates, if_neg single]
    simp only [Bool.and_eq_true, decide_eq_true_eq] at single
    refine ⟨List.forall_mem_cons.2 ⟨first, bound⟩, List.isChain_cons.2 ⟨fun w isHead => ?_, chain⟩⟩
    have := head_joinSurrogates isHead
    omega
  | case3 codes short =>
    match codes, short with
    | [], _ => exact ⟨bounded, .nil⟩
    | [code], _ => exact ⟨bounded, .singleton code⟩
    | u :: v :: rest, short => exact (short u v rest rfl).elim

theorem isText_textOf {codes : List Nat} (bounded : ∀ code ∈ codes, code < 0x110000) :
    (textOf codes).IsText := by
  have joined := areJoined_joinSurrogates bounded
  unfold textOf
  dsimp only
  split
  · next broken => exact ⟨by simpa using broken, joined⟩
  · trivial

theorem hexValue?_lt {c : Char} {n : Nat} (h : hexValue? c = some n) : n < 16 := by
  unfold hexValue? at h
  dsimp only at h
  iterate 3
    split at h
    · next digit =>
      have := Option.some.inj h
      simp at digit
      omega
  cases h

theorem unit?_lt {cs rest : List Char} {unit : Nat} (h : unit? cs = some (unit, rest)) :
    unit < 0x10000 := by
  unfold unit? at h
  split at h
  · split at h
    · next w x y z hw hx hy hz =>
      have := hexValue?_lt hw
      have := hexValue?_lt hx
      have := hexValue?_lt hy
      have := hexValue?_lt hz
      have := congrArg Prod.fst (Option.some.inj h)
      simp at this
      omega
    · cases h
  · cases h

theorem bounded_cons {inner : Except Fault (List Nat × List Char)} {code : Nat}
    {codes : List Nat} {rest : List Char} (small : code < 0x110000)
    (others : ∀ {rest codes}, inner = .ok (codes, rest) → ∀ code ∈ codes, code < 0x110000)
    (read : (inner.map fun (codes, rest) => (code :: codes, rest)) = .ok (codes, rest)) :
    ∀ code ∈ codes, code < 0x110000 := by
  obtain ⟨⟨more, _⟩, read, same⟩ := exists_of_map_ok read
  cases same
  exact List.forall_mem_cons.2 ⟨small, others read⟩

theorem bounded_of_readText {start fuel : Nat} {cs rest : List Char} {codes : List Nat}
    (read : readText start fuel cs = .ok (codes, rest)) : ∀ code ∈ codes, code < 0x110000 := by
  fun_induction readText start fuel cs generalizing codes rest
  case case3 =>
    cases read
    simp
  case case8 found ih | case9 found _ ih =>
    have := unit?_lt found
    exact bounded_cons (by omega) ih read
  case case10 ih | case13 ih => exact bounded_cons (toNat_lt _).1 ih read
  all_goals cases read

/-- What is read between quotes is text. -/
theorem isText_of_readText {start fuel : Nat} {cs rest : List Char} {codes : List Nat}
    (read : readText start fuel cs = .ok (codes, rest)) : (textOf codes).IsText :=
  isText_textOf (bounded_of_readText read)

end Json

end RecordCheck
