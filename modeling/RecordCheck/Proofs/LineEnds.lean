import RecordCheck.Proofs.ReportText
import RecordCheck.Settings.File

/-!
# Line ends

The lines of a settings file may end in each of three ways, and all of them are one character by the
time that the text is read. This changes nothing in what is read: line ends are blanks between
values, and have no place in a number, in a word or between quotes. So two texts that differ in
nothing but their line ends have the same value, or none.

## Main definitions

* `Files.SameLines`: texts that differ in nothing but their line ends.
* `Json.Quotes`: text up to a closing quote, and the codes that it stands for.
* `Json.SplitsOff`: ways of splitting text that treat all line ends alike.

## Main statements

* `Json.readText_iff`: what is read between quotes.
* `Json.readValue_alike`: a value is read from both of two texts with the same lines.
* `Json.read_plainLines`: it makes no difference in which way line ends are written.
-/
set_option autoImplicit false

namespace RecordCheck

/-! ## Texts with the same lines -/

namespace Files

theorem plainLines_cons {c : Char} (noReturn : c ≠ '\r') (cs : List Char) :
    plainLines (c :: cs) = c :: plainLines cs := by
  rw [plainLines.eq_def]
  split <;> simp_all

/-- A return begins a line end, which may have a second character. -/
theorem plainLines_return (cs : List Char) :
    ∃ rest, plainLines ('\r' :: cs) = '\n' :: plainLines rest := by
  rw [plainLines.eq_def]
  split
  · next rest same => exact ⟨rest, rfl⟩
  · next rest _ same => exact ⟨rest, rfl⟩
  · next c rest _ other same => exact (other (List.cons.inj same).1.symm).elim
  · next same => cases same

/-- Texts that differ in nothing but their line ends. -/
def SameLines (cs ds : List Char) : Prop := plainLines cs = plainLines ds

namespace SameLines

variable {cs ds : List Char} {c : Char}

theorem symm (h : SameLines cs ds) : SameLines ds cs := Eq.symm h

theorem nil_left (h : SameLines [] ds) : ds = [] := by
  cases ds with
  | nil => rfl
  | cons d ds =>
    by_cases isReturn : d = '\r'
    · subst isReturn
      obtain ⟨rest, same⟩ := plainLines_return ds
      rw [SameLines, same] at h
      cases h
    · rw [SameLines, plainLines_cons isReturn] at h
      cases h

/-- What is no line end stands in both texts. -/
theorem cons_left (h : SameLines (c :: cs) ds) (noReturn : c ≠ '\r') (noFeed : c ≠ '\n') :
    ∃ rest, ds = c :: rest ∧ SameLines cs rest := by
  rw [SameLines, plainLines_cons noReturn] at h
  cases ds with
  | nil => cases h
  | cons d ds =>
    by_cases isReturn : d = '\r'
    · subst isReturn
      obtain ⟨rest, same⟩ := plainLines_return ds
      rw [same] at h
      exact (noFeed (List.cons.inj h).1).elim
    · rw [plainLines_cons isReturn] at h
      obtain ⟨rfl, rest⟩ := List.cons.inj h
      exact ⟨ds, rfl, rest⟩

theorem append_left (front : List Char) (h : SameLines (front ++ cs) ds)
    (plain : ∀ c ∈ front, c ≠ '\r' ∧ c ≠ '\n') : ∃ rest, ds = front ++ rest ∧ SameLines cs rest := by
  induction front generalizing ds with
  | nil => exact ⟨ds, rfl, h⟩
  | cons c front ih =>
    obtain ⟨⟨noReturn, noFeed⟩, others⟩ := List.forall_mem_cons.1 plain
    obtain ⟨tail, rfl, behind⟩ := h.cons_left noReturn noFeed
    obtain ⟨rest, rfl, last⟩ := ih behind others
    exact ⟨rest, rfl, last⟩

end SameLines

end Files

namespace Json

open Files

/-! ## Blanks -/

theorem skipBlanks_plainLines (cs : List Char) :
    skipBlanks (plainLines cs) = plainLines (skipBlanks cs) := by
  fun_induction plainLines cs with
  | case1 rest ih => simpa [skipBlanks] using ih
  | case2 rest _ ih => simpa [skipBlanks] using ih
  | case3 c rest _ noReturn ih =>
    by_cases blank : c == ' ' || c == '\t' || c == '\n' || c == '\r'
    · simpa [skipBlanks, List.dropWhile, blank] using ih
    · have other : c ≠ '\r' := fun isReturn => noReturn isReturn
      simp [skipBlanks, List.dropWhile, blank, plainLines_cons other]
  | case4 => rfl

theorem length_skipBlanks_le (cs : List Char) : (skipBlanks cs).length ≤ cs.length :=
  (List.dropWhile_sublist _).length_le

section Blanks

variable {cs ds tail : List Char} {c : Char} (alike : SameLines cs ds)
include alike

theorem skipBlanks_alike : SameLines (skipBlanks cs) (skipBlanks ds) := by
  rw [SameLines, ← skipBlanks_plainLines, ← skipBlanks_plainLines, alike]

/-- After blanks, both texts go on with the same character. -/
theorem skipBlanks_cons (found : skipBlanks cs = c :: tail) (noReturn : c ≠ '\r')
    (noFeed : c ≠ '\n') :
    ∃ left, skipBlanks ds = c :: left ∧ SameLines tail left ∧ left.length < ds.length := by
  have skipped := skipBlanks_alike alike
  rw [found] at skipped
  obtain ⟨left, same, behind⟩ := skipped.cons_left noReturn noFeed
  have short := length_skipBlanks_le ds
  rw [same, List.length_cons] at short
  exact ⟨left, same, behind, short⟩

end Blanks

/-! ## Numbers and words -/

/-- A way of splitting something off the front of a text. Line ends are not split off, and it makes
no difference in which way they are written. -/
structure SplitsOff (split : List Char → List Char × List Char) : Prop where
  plainLines : ∀ cs, split (plainLines cs) = ((split cs).1, plainLines (split cs).2)
  suffix : ∀ cs, (split cs).2 <:+ cs

/-- Splitting looks at the first character that is no line end. -/
theorem SplitsOff.of_cons {split : List Char → List Char × List Char} (nil : split [] = ([], []))
    (ends : ∀ c ∈ ['\r', '\n'], ∀ cs, split (c :: cs) = ([], c :: cs))
    (others : ∀ c cs, c ≠ '\r' → split (c :: Files.plainLines cs) =
      ((split (c :: cs)).1, Files.plainLines (split (c :: cs)).2))
    (suffix : ∀ cs, (split cs).2 <:+ cs) : SplitsOff split := by
  refine ⟨fun cs => ?_, suffix⟩
  cases cs with
  | nil => rw [Files.plainLines, nil, Files.plainLines]
  | cons c cs =>
    by_cases isReturn : c = '\r'
    · subst isReturn
      obtain ⟨rest, same⟩ := plainLines_return cs
      rw [ends _ (by simp), same, ends _ (by simp)]
    · rw [plainLines_cons isReturn, others c cs isReturn]

theorem splitsOff_digits : SplitsOff digits := by
  refine ⟨fun cs => ?_, fun cs => List.dropWhile_suffix _⟩
  induction cs with
  | nil => rfl
  | cons c cs ih =>
    by_cases isReturn : c = '\r'
    · subst isReturn
      obtain ⟨rest, same⟩ := plainLines_return cs
      simp [digits, same, show Reading.isAsciiDigit '\r' = false from rfl,
        show Reading.isAsciiDigit '\n' = false from rfl]
    · rw [plainLines_cons isReturn]
      obtain ⟨front, rest⟩ := Prod.mk.inj ih
      by_cases digit : Reading.isAsciiDigit c
      · simp [digits, digit, front, rest]
      · simp [digits, digit, plainLines_cons isReturn]

/-- Splits off a minus. -/
def minus : List Char → List Char × List Char
  | '-' :: rest => (['-'], rest)
  | rest => ([], rest)

theorem splitsOff_minus : SplitsOff minus := by
  refine .of_cons rfl (by simp [minus]) (fun c cs noReturn => ?_) fun cs => ?_
  · by_cases isMinus : c = '-'
    · subst isMinus
      rfl
    · simp [minus, isMinus, plainLines_cons noReturn]
  · fun_cases minus cs <;> simp

/-- Splits off the sign of an exponent. -/
def sign : List Char → List Char × List Char
  | '-' :: rest => (['-'], rest)
  | '+' :: rest => (['+'], rest)
  | rest => ([], rest)

theorem splitsOff_sign : SplitsOff sign := by
  refine .of_cons rfl (by simp [sign]) (fun c cs noReturn => ?_) fun cs => ?_
  · by_cases isMinus : c = '-'
    · subst isMinus
      rfl
    by_cases isPlus : c = '+'
    · subst isPlus
      rfl
    · simp [sign, isMinus, isPlus, plainLines_cons noReturn]
  · fun_cases sign cs <;> simp

/-- Splits off the digits before a point. -/
def whole : List Char → List Char × List Char
  | '0' :: rest => (['0'], rest)
  | rest => digits rest

theorem splitsOff_whole : SplitsOff whole := by
  have other {c : Char} (noZero : c ≠ '0') (cs : List Char) :
      whole (c :: cs) = digits (c :: cs) := by simp [whole, noZero]
  refine .of_cons rfl (fun c ends cs => ?_) (fun c cs noReturn => ?_) fun cs => ?_
  · obtain rfl | rfl : c = '\r' ∨ c = '\n' := by simpa using ends
    all_goals rfl
  · by_cases zero : c = '0'
    · subst zero
      rfl
    · rw [other zero, other zero, ← plainLines_cons noReturn, splitsOff_digits.plainLines]
  · fun_cases whole cs with
    | case1 => exact List.suffix_cons _ _
    | case2 => exact splitsOff_digits.suffix _

theorem splitsOff_fraction : SplitsOff fraction := by
  refine .of_cons rfl (by simp [fraction]) (fun c cs noReturn => ?_) fun cs => ?_
  · by_cases point : c = '.'
    · subst point
      rw [fraction, fraction, splitsOff_digits.plainLines]
      rcases digits cs with ⟨_ | ⟨d, ds⟩, rest⟩
      · simp [plainLines_cons noReturn]
      · rfl
    · simp [fraction, point, plainLines_cons noReturn]
  · fun_cases fraction cs with
    | case2 rest ds after _ found =>
      have behind := splitsOff_digits.suffix rest
      rw [found] at behind
      exact behind.trans (List.suffix_cons _ _)
    | _ => exact List.suffix_refl _

theorem exponent_cons {e : Char} (marks : (e == 'e' || e == 'E') = true) (cs : List Char) :
    exponent (e :: cs) = match digits (sign cs).2 with
      | ([], _) => ([], e :: cs)
      | (ds, rest) => (e :: (sign cs).1 ++ ds, rest) := by
  rw [exponent.eq_def]
  dsimp only
  rw [if_pos marks]
  rfl

theorem splitsOff_exponent : SplitsOff exponent := by
  refine .of_cons rfl (by simp [exponent]) (fun e cs noReturn => ?_) fun cs => ?_
  · by_cases marks : e == 'e' || e == 'E'
    · rw [exponent_cons marks, exponent_cons marks, splitsOff_sign.plainLines,
        splitsOff_digits.plainLines]
      rcases digits (sign cs).2 with ⟨_ | ⟨d, ds⟩, rest⟩
      · simp [plainLines_cons noReturn]
      · rfl
    · simp [exponent, marks, plainLines_cons noReturn]
  · cases cs with
    | nil => exact List.suffix_refl _
    | cons e cs =>
      by_cases marks : e == 'e' || e == 'E'
      · have behind := (splitsOff_digits.suffix _).trans (splitsOff_sign.suffix cs)
        rw [exponent_cons marks]
        split
        · exact List.suffix_refl _
        · next ds rest _ found =>
          rw [found] at behind
          exact behind.trans (List.suffix_cons _ _)
      · simp [exponent, marks]

/-- A number is split off part by part. -/
theorem readNumber_eq (cs : List Char) : readNumber cs =
    let front := minus cs
    let start := whole front.2
    let part := fraction start.2
    let power := exponent part.2
    if start.1.isEmpty then .error (.malformed .value cs.length)
    else if part.1.isEmpty && power.1.isEmpty then
      match readInteger? (front.1 ++ start.1) with
      | some n => .ok (.int n, power.2)
      | none => .error .tooManyDigits
    else match readFloat? (front.1 ++ start.1 ++ part.1 ++ power.1) with
      | some x => .ok (.float x, power.2)
      | none => .error (.malformed .value cs.length) := rfl

theorem readNumber_plainLines (cs : List Char) : (readNumber (plainLines cs)).toOption =
    (readNumber cs).toOption.map (Prod.map id plainLines) := by
  rw [readNumber_eq, readNumber_eq]
  simp only [splitsOff_minus.plainLines, splitsOff_whole.plainLines, splitsOff_fraction.plainLines,
    splitsOff_exponent.plainLines]
  split
  · rfl
  split
  · split <;> rfl
  · split <;> rfl

theorem readNumber_suffix {cs rest : List Char} {v : Value}
    (read : readNumber cs = .ok (v, rest)) : rest <:+ cs := by
  have behind : (exponent (fraction (whole (minus cs).2).2).2).2 <:+ cs :=
    (splitsOff_exponent.suffix _).trans ((splitsOff_fraction.suffix _).trans
      ((splitsOff_whole.suffix _).trans (splitsOff_minus.suffix cs)))
  rw [readNumber_eq] at read
  dsimp only at read
  split at read
  · cases read
  split at read <;> split at read <;> cases read <;> exact behind

theorem word?_cons (w c : Char) (word cs : List Char) :
    word? (w :: word) (c :: cs) = if w = c then word? word cs else none := by
  by_cases same : w = c <;> simp [word?, List.isPrefixOf, same]

theorem word?_plainLines {word : List Char} (noReturn : '\r' ∉ word) (noFeed : '\n' ∉ word)
    (cs : List Char) : word? word (plainLines cs) = (word? word cs).map plainLines := by
  induction word generalizing cs with
  | nil => simp [word?]
  | cons w word ih =>
    obtain ⟨ownReturn, noReturn⟩ := List.ne_and_not_mem_of_not_mem_cons noReturn
    obtain ⟨ownFeed, noFeed⟩ := List.ne_and_not_mem_of_not_mem_cons noFeed
    cases cs with
    | nil => rfl
    | cons c cs =>
      by_cases isReturn : c = '\r'
      · subst isReturn
        obtain ⟨rest, same⟩ := plainLines_return cs
        rw [same, word?_cons, word?_cons, if_neg ownFeed.symm, if_neg ownReturn.symm]
        rfl
      · rw [plainLines_cons isReturn, word?_cons, word?_cons]
        split
        · exact ih noReturn noFeed cs
        · rfl

/-- The value of the first word that a text starts with, and what is left behind it. -/
def wordValue? (entries : List (String × Value)) (cs : List Char) : Option (Value × List Char) :=
  entries.findSome? fun entry => (word? entry.1.toList cs).map fun rest => (entry.2, rest)

theorem wordValue?_plainLines {entries : List (String × Value)}
    (plain : ∀ entry ∈ entries, '\r' ∉ entry.1.toList ∧ '\n' ∉ entry.1.toList) (cs : List Char) :
    wordValue? entries (plainLines cs) = (wordValue? entries cs).map (Prod.map id plainLines) := by
  induction entries with
  | nil => rfl
  | cons entry entries ih =>
    obtain ⟨⟨noReturn, noFeed⟩, others⟩ := List.forall_mem_cons.1 plain
    rw [wordValue?, wordValue?, List.findSome?_cons, List.findSome?_cons,
      word?_plainLines noReturn noFeed]
    cases word? entry.1.toList cs with
    | none => exact ih others
    | some rest => rfl

theorem readPlain_eq (cs : List Char) : readPlain cs = match wordValue? words cs with
    | some found => .ok found
    | none => readNumber cs := rfl

theorem readPlain_plainLines (cs : List Char) : (readPlain (plainLines cs)).toOption =
    (readPlain cs).toOption.map (Prod.map id plainLines) := by
  rw [readPlain_eq, readPlain_eq, wordValue?_plainLines (by simp [words])]
  cases wordValue? words cs with
  | none => exact readNumber_plainLines cs
  | some found => rfl

theorem readPlain_suffix {cs rest : List Char} {v : Value}
    (read : readPlain cs = .ok (v, rest)) : rest <:+ cs := by
  rw [readPlain_eq] at read
  split at read
  · next found known =>
    cases read
    obtain ⟨entry, -, made⟩ := List.exists_of_findSome?_eq_some known
    obtain ⟨tail, split, same⟩ := Option.map_eq_some_iff.1 made
    cases same
    rw [word?] at split
    obtain ⟨-, kept⟩ := Option.ite_none_right_eq_some.1 split
    cases kept
    exact List.drop_suffix _ _
  · exact readNumber_suffix read

/-- A word or a number is read from both texts. -/
theorem readPlain_alike {cs ds rest : List Char} {v : Value} (alike : SameLines cs ds)
    (read : readPlain cs = .ok (v, rest)) :
    ∃ left, readPlain ds = .ok (v, left) ∧ SameLines rest left ∧ left.length ≤ ds.length := by
  have both : (readPlain ds).toOption.map (Prod.map id plainLines) = some (v, plainLines rest) := by
    rw [← readPlain_plainLines, ← alike, readPlain_plainLines, read]
    rfl
  cases own : readPlain ds with
  | error e => rw [own] at both; cases both
  | ok found =>
    obtain ⟨w, left⟩ := found
    rw [own] at both
    obtain ⟨rfl, same⟩ := Prod.mk.inj (Option.some.inj both)
    exact ⟨left, rfl, Eq.symm same, (readPlain_suffix own).length_le⟩

/-! ## Text between quotes -/

/-- Text up to a closing quote: the codes that it stands for, the text, and what is left. -/
inductive Quotes : List Nat → List Char → List Char → Prop
  | close {rest} : Quotes [] ('"' :: rest) rest
  | unit {u codes cs tail rest} : unit? cs = some (u, tail) → Quotes codes tail rest →
    Quotes (u :: codes) ('\\' :: 'u' :: cs) rest
  | letter {l c codes cs rest} : letterEscape? l = some c → Quotes codes cs rest →
    Quotes (c.toNat :: codes) ('\\' :: l :: cs) rest
  | plain {c codes cs rest} : c ≠ '"' → c ≠ '\\' → 0x20 ≤ c.toNat → Quotes codes cs rest →
    Quotes (c.toNat :: codes) (c :: cs) rest

theorem quotes_of_readText {start fuel : Nat} {cs rest : List Char} {codes : List Nat}
    (read : readText start fuel cs = .ok (codes, rest)) : Quotes codes cs rest := by
  fun_induction readText start fuel cs generalizing codes
  case case3 =>
    cases read
    exact .close
  case case8 found ih =>
    obtain ⟨⟨codes, left⟩, given, same⟩ := exists_of_map_ok read
    cases same
    exact .unit found (ih given)
  case case9 found _ ih =>
    obtain ⟨⟨codes, left⟩, given, same⟩ := exists_of_map_ok read
    cases same
    exact .unit found (ih given)
  case case10 isLetter ih =>
    obtain ⟨⟨codes, left⟩, given, same⟩ := exists_of_map_ok read
    cases same
    exact .letter isLetter (ih given)
  case case13 tail noQuote noEnd _ noLetter visible ih =>
    obtain ⟨⟨codes, left⟩, given, same⟩ := exists_of_map_ok read
    cases same
    refine .plain noQuote ?_ (Nat.le_of_not_lt visible) (ih given)
    rintro rfl
    cases tail with
    | nil => exact noEnd rfl rfl
    | cons c tail => exact noLetter c tail rfl rfl
  all_goals cases read

/-- Four digits stand for a unit whatever follows. -/
theorem exists_digits_of_unit? {cs tail : List Char} {u : Nat} (h : unit? cs = some (u, tail)) :
    ∃ a b c d, cs = a :: b :: c :: d :: tail ∧ (∀ x ∈ [a, b, c, d], x ≠ '\r' ∧ x ≠ '\n') ∧
      ∀ rest, unit? (a :: b :: c :: d :: rest) = some (u, rest) := by
  unfold unit? at h
  split at h
  · next a b c d rest =>
    split at h
    · next w x y z ha hb hc hd =>
      obtain ⟨rfl, rfl⟩ := Prod.mk.inj (Option.some.inj h)
      have noEnd {c : Char} {n : Nat} (digit : hexValue? c = some n) : c ≠ '\r' ∧ c ≠ '\n' := by
        constructor <;> rintro rfl <;> cases digit
      exact ⟨a, b, c, d, rfl, by simp [noEnd ha, noEnd hb, noEnd hc, noEnd hd],
        fun rest => by simp [unit?, ha, hb, hc, hd]⟩
    · cases h
  · cases h

namespace Quotes

variable {codes : List Nat} {cs ds rest : List Char}

theorem length_pos (h : Quotes codes cs rest) : 0 < cs.length := by
  cases h <;> simp

/-- Any number of steps is enough that is greater than that of the characters. -/
theorem readText (h : Quotes codes cs rest) (start : Nat) {fuel : Nat} (enough : cs.length < fuel) :
    readText start fuel cs = .ok (codes, rest) := by
  induction h generalizing fuel with
  | close =>
    obtain ⟨fuel, rfl⟩ := Nat.exists_eq_add_of_lt enough
    rfl
  | @unit u codes cs tail rest four behind ih =>
    obtain ⟨a, b, c, d, rfl, -, -⟩ := exists_digits_of_unit? four
    have some := behind.length_pos
    simp only [List.length_cons] at enough
    obtain ⟨fuel, rfl⟩ := Nat.exists_eq_succ_of_ne_zero (show fuel ≠ 0 by omega)
    have long : ¬ (a :: b :: c :: d :: tail).length < 5 := by
      simp only [List.length_cons]
      omega
    rw [Json.readText, if_neg long, four]
    dsimp only
    split
    · next after _ =>
      have four : (unit? after).isSome := by
        cases behind with
        | unit four _ => simp [four]
        | letter isLetter _ => cases isLetter
        | plain _ noBackslash => exact (noBackslash rfl).elim
      rw [if_neg (by simp [Option.isSome_iff_ne_none.1 four]), ih (by omega)]
      rfl
    · rw [ih (by omega)]
      rfl
  | @letter l c codes cs rest isLetter _ ih =>
    simp only [List.length_cons] at enough
    obtain ⟨fuel, rfl⟩ := Nat.exists_eq_succ_of_ne_zero (show fuel ≠ 0 by omega)
    have noUnit : l ≠ 'u' := by
      rintro rfl
      cases isLetter
    simp [Json.readText, isLetter, ih (show cs.length < fuel by omega), Except.map]
  | @plain c codes cs rest noQuote noBackslash visible _ ih =>
    simp only [List.length_cons] at enough
    obtain ⟨fuel, rfl⟩ := Nat.exists_eq_succ_of_ne_zero (show fuel ≠ 0 by omega)
    simp [Json.readText, noBackslash, Nat.not_lt.2 visible,
      ih (show cs.length < fuel by omega), Except.map]

/-- There are no line ends between quotes. -/
theorem alike (h : Quotes codes cs rest) (alike : SameLines cs ds) :
    ∃ left, Quotes codes ds left ∧ SameLines rest left ∧ left.length ≤ ds.length := by
  induction h generalizing ds with
  | close =>
    obtain ⟨left, rfl, behind⟩ := alike.cons_left (by decide) (by decide)
    exact ⟨left, .close, behind, by simp⟩
  | @unit u codes cs tail rest four _ ih =>
    obtain ⟨a, b, c, d, rfl, digits, unit⟩ := exists_digits_of_unit? four
    obtain ⟨tail, rfl, behind⟩ := SameLines.append_left ['\\', 'u', a, b, c, d] alike
      (List.forall_mem_cons.2 ⟨by decide, List.forall_mem_cons.2 ⟨by decide, digits⟩⟩)
    obtain ⟨left, own, last, short⟩ := ih behind
    exact ⟨left, .unit (unit _) own, last, by simp; omega⟩
  | @letter l c codes cs rest isLetter _ ih =>
    have noEnd : l ≠ '\r' ∧ l ≠ '\n' := by constructor <;> rintro rfl <;> cases isLetter
    obtain ⟨tail, rfl, behind⟩ := SameLines.append_left ['\\', l] alike
      (List.forall_mem_cons.2 ⟨by decide, List.forall_mem_singleton.2 noEnd⟩)
    obtain ⟨left, own, last, short⟩ := ih behind
    exact ⟨left, .letter isLetter own, last, by simp; omega⟩
  | @plain c codes cs rest noQuote noBackslash visible _ ih =>
    have noEnd : c ≠ '\r' ∧ c ≠ '\n' := by
      constructor <;> rintro rfl <;> exact absurd visible (by decide)
    obtain ⟨tail, rfl, behind⟩ := alike.cons_left noEnd.1 noEnd.2
    obtain ⟨left, own, last, short⟩ := ih behind
    exact ⟨left, .plain noQuote noBackslash visible own, last, by simp; omega⟩

end Quotes

/-- Given enough steps, exactly such text is read. -/
theorem readText_iff {start fuel : Nat} {cs rest : List Char} {codes : List Nat}
    (enough : cs.length < fuel) :
    readText start fuel cs = .ok (codes, rest) ↔ Quotes codes cs rest :=
  ⟨quotes_of_readText, fun h => h.readText start enough⟩

/-! ## Values -/

/-- What begins with neither a quote nor a bracket nor a brace is a word or a number. -/
theorem readValue_plain {depth fuel : Nat} {cs : List Char} (noEnd : cs ≠ [])
    (noText : ∀ rest, cs ≠ '"' :: rest) (noItems : ∀ rest, cs ≠ '[' :: rest)
    (noEntries : ∀ rest, cs ≠ '\x7b' :: rest) :
    readValue depth (fuel + 1) cs = readPlain cs := by
  rw [readValue.eq_def]
  split <;> simp_all

/-- The steps that are enough for a text, less the one for its first character, are enough for what
follows. -/
theorem exists_fuel {cs ds : List Char} {c : Char} {fuel : Nat} (alike : SameLines (c :: cs) ds)
    (noReturn : c ≠ '\r') (noFeed : c ≠ '\n') (enough : 2 * ds.length ≤ fuel) :
    ∃ tail less, ds = c :: tail ∧ fuel = less + 1 ∧ SameLines cs tail ∧
      2 * tail.length + 1 ≤ less := by
  obtain ⟨tail, rfl, behind⟩ := alike.cons_left noReturn noFeed
  rw [List.length_cons] at enough
  obtain ⟨less, rfl⟩ := Nat.exists_eq_succ_of_ne_zero (show fuel ≠ 0 by omega)
  exact ⟨tail, less, rfl, rfl, behind, by omega⟩

/-- A key with a colon behind it, and what is read behind the colon, are read from both texts. -/
theorem entry_alike {depth fuel more : Nat} {cs ds keyed valued rest : List Char}
    {codes : List Nat} {v : Value} (alike : SameLines cs ds) (enough : 2 * ds.length + 1 ≤ more)
    (key : readText (cs.length + 1) fuel cs = .ok (codes, keyed))
    (colon : skipBlanks keyed = ':' :: valued)
    (value : ∀ es, SameLines (skipBlanks valued) es → 2 * es.length ≤ more →
      ∃ left, readValue depth more es = .ok (v, left) ∧ SameLines rest left ∧
        left.length ≤ es.length) :
    ∃ keyed valued left, readText (ds.length + 1) more ds = .ok (codes, keyed) ∧
      skipBlanks keyed = ':' :: valued ∧ readValue depth more (skipBlanks valued) = .ok (v, left) ∧
      SameLines rest left ∧ left.length < ds.length := by
  obtain ⟨left, text, behind, short⟩ := (quotes_of_readText key).alike alike
  obtain ⟨tail, colon, behind, shorter⟩ := skipBlanks_cons behind colon (by decide) (by decide)
  have blank := length_skipBlanks_le tail
  obtain ⟨last, own, behind, shortest⟩ := value _ (skipBlanks_alike behind) (by omega)
  exact ⟨left, tail, last, text.readText _ (by omega), colon, own, behind, by omega⟩

section Brackets

variable {β : Type} {depth more : Nat} {opening closing : Char} {body ds rest : List Char} {v : Value}
  (alike : SameLines (opening :: body) ds) (enough : 2 * ds.length ≤ more)
  (opens : opening ≠ '\r' ∧ opening ≠ '\n') (closes : closing ≠ '\r' ∧ closing ≠ '\n')
include alike enough opens closes

/-- What is closed right behind its opening bracket is so in both texts. -/
theorem closed_alike (closed : skipBlanks body = closing :: rest)
    (read : ∀ {fuel tail left}, skipBlanks tail = closing :: left →
      readValue depth (fuel + 1) (opening :: tail) = .ok (v, left)) :
    ∃ left, readValue depth more ds = .ok (v, left) ∧ SameLines rest left ∧
      left.length ≤ ds.length := by
  obtain ⟨tail, more, rfl, rfl, behind, enough⟩ := exists_fuel alike opens.1 opens.2 enough
  obtain ⟨left, closed, last, short⟩ := skipBlanks_cons behind closed closes.1 closes.2
  exact ⟨left, read closed, last, by simp; omega⟩

/-- What is not closed right behind its opening bracket is read alike when what is inside is. -/
theorem opened_alike (inner : Nat → List Char → Except Fault (β × List Char)) {x : β}
    (opened : ∀ left, skipBlanks body ≠ closing :: left)
    (inside : ∀ fuel es, SameLines (skipBlanks body) es → 2 * es.length + 1 ≤ fuel →
      ∃ left, inner fuel es = .ok (x, left) ∧ SameLines rest left ∧ left.length ≤ es.length)
    (read : ∀ {fuel tail left}, (∀ left, skipBlanks tail ≠ closing :: left) →
      inner fuel (skipBlanks tail) = .ok (x, left) →
        readValue depth (fuel + 1) (opening :: tail) = .ok (v, left)) :
    ∃ left, readValue depth more ds = .ok (v, left) ∧ SameLines rest left ∧
      left.length ≤ ds.length := by
  obtain ⟨tail, more, rfl, rfl, behind, enough⟩ := exists_fuel alike opens.1 opens.2 enough
  have shorter := length_skipBlanks_le tail
  obtain ⟨left, own, last, short⟩ := inside more _ (skipBlanks_alike behind) (by omega)
  refine ⟨left, read (fun after closed => ?_) own, last, by simp; omega⟩
  obtain ⟨_, closed, -⟩ := skipBlanks_cons behind.symm closed closes.1 closes.2
  exact opened _ closed

end Brackets

mutual

/-- A value that is read from a text is read from every text with the same lines. -/
theorem readValue_alike (depth fuel more : Nat) (cs : List Char) {ds : List Char}
    (alike : SameLines cs ds) (enough : 2 * ds.length ≤ more) :
    ∀ v rest, readValue depth fuel cs = .ok (v, rest) →
      ∃ left, readValue depth more ds = .ok (v, left) ∧ SameLines rest left ∧
        left.length ≤ ds.length := by
  fun_cases readValue depth fuel cs
  case case3 fuel body =>
    intro v rest read
    obtain ⟨⟨codes, _⟩, text, made⟩ := exists_of_map_ok read
    cases made
    obtain ⟨tail, more, rfl, rfl, behind, enough⟩ :=
      exists_fuel alike (by decide) (by decide) enough
    obtain ⟨left, own, last, short⟩ := (quotes_of_readText text).alike behind
    refine ⟨left, ?_, last, by simp; omega⟩
    rw [readValue, own.readText _ (by omega)]
    rfl
  case case5 fuel _ entered _ closed =>
    rintro _ _ ⟨⟩
    refine closed_alike alike enough (by decide) (by decide) closed fun {_ _ _} closed => ?_
    rw [readValue, if_neg entered, closed]
    rfl
  case case6 fuel _ entered opened =>
    intro v rest read
    obtain ⟨⟨vs, _⟩, items, made⟩ := exists_of_map_ok read
    cases made
    refine opened_alike alike enough (by decide) (by decide) (readItems (depth - 1)) opened
      (fun more _ behind enough =>
        readItems_alike (depth - 1) fuel more _ behind enough _ _ items)
      fun {_ _ _} opened own => ?_
    rw [readValue, if_neg entered]
    split
    · next closed => exact (opened _ closed).elim
    · rw [own]
      rfl
  case case8 fuel _ entered _ closed =>
    rintro _ _ ⟨⟩
    refine closed_alike alike enough (by decide) (by decide) closed fun {_ _ _} closed => ?_
    rw [readValue, if_neg entered, closed]
    rfl
  case case9 fuel _ entered opened =>
    intro v rest read
    obtain ⟨⟨es, _⟩, entries, made⟩ := exists_of_map_ok read
    cases made
    refine opened_alike alike enough (by decide) (by decide) (readEntries (depth - 1)) opened
      (fun more _ behind enough =>
        readEntries_alike (depth - 1) fuel more _ behind enough _ _ entries)
      fun {_ _ _} opened own => ?_
    rw [readValue, if_neg entered]
    split
    · next closed => exact (opened _ closed).elim
    · rw [own]
      rfl
  case case10 noEnd noText noItems noEntries =>
    intro v rest read
    have other {c : Char} (noReturn : c ≠ '\r') (noFeed : c ≠ '\n')
        (no : ∀ rest, cs = c :: rest → False) (tail : List Char) : ds ≠ c :: tail := by
      rintro rfl
      obtain ⟨rest, same, -⟩ := alike.symm.cons_left noReturn noFeed
      exact no rest same
    have some : ds ≠ [] := by
      rintro rfl
      exact noEnd alike.symm.nil_left
    have := List.length_pos_of_ne_nil some
    obtain ⟨more, rfl⟩ := Nat.exists_eq_succ_of_ne_zero (show more ≠ 0 by omega)
    rw [readValue_plain some (other (by decide) (by decide) noText)
      (other (by decide) (by decide) noItems) (other (by decide) (by decide) noEntries)]
    exact readPlain_alike alike read
  all_goals rintro _ _ ⟨⟩
termination_by fuel

theorem readItems_alike (depth fuel more : Nat) (cs : List Char) {ds : List Char}
    (alike : SameLines cs ds) (enough : 2 * ds.length + 1 ≤ more) :
    ∀ vs rest, readItems depth fuel cs = .ok (vs, rest) →
      ∃ left, readItems depth more ds = .ok (vs, left) ∧ SameLines rest left ∧
        left.length ≤ ds.length := by
  obtain ⟨more, rfl⟩ := Nat.exists_eq_succ_of_ne_zero (show more ≠ 0 by omega)
  fun_cases readItems depth fuel cs
  case case3 fuel v _ _ closed first =>
    rintro _ _ ⟨⟩
    obtain ⟨left, own, behind, short⟩ :=
      readValue_alike depth fuel more _ alike (by omega) _ _ first
    obtain ⟨left, closed, last, shorter⟩ := skipBlanks_cons behind closed (by decide) (by decide)
    refine ⟨left, ?_, last, by omega⟩
    simp only [readItems, own, closed]
  case case4 fuel v _ _ comma first =>
    intro vs rest read
    obtain ⟨⟨ws, _⟩, others, made⟩ := exists_of_map_ok read
    cases made
    obtain ⟨left, own, behind, short⟩ :=
      readValue_alike depth fuel more _ alike (by omega) _ _ first
    obtain ⟨tail, comma, behind, shorter⟩ := skipBlanks_cons behind comma (by decide) (by decide)
    have blank := length_skipBlanks_le tail
    obtain ⟨left, others, last, shortest⟩ := readItems_alike depth fuel more _
      (skipBlanks_alike behind) (by omega) _ _ others
    refine ⟨left, ?_, last, by omega⟩
    simp only [readItems, own, comma, others]
    rfl
  all_goals rintro _ _ ⟨⟩
termination_by fuel

theorem readEntries_alike (depth fuel more : Nat) (cs : List Char) {ds : List Char}
    (alike : SameLines cs ds) (enough : 2 * ds.length + 1 ≤ more) :
    ∀ es rest, readEntries depth fuel cs = .ok (es, rest) →
      ∃ left, readEntries depth more ds = .ok (es, left) ∧ SameLines rest left ∧
        left.length ≤ ds.length := by
  fun_cases readEntries depth fuel cs
  case case4 fuel _ _ _ text _ colon v _ first _ closed =>
    rintro _ _ ⟨⟩
    obtain ⟨tail, more, rfl, rfl, behind, enough⟩ :=
      exists_fuel alike (by decide) (by decide) (Nat.le_of_succ_le enough)
    obtain ⟨keyed, valued, left, key, colon, own, behind, short⟩ :=
      entry_alike behind enough text colon fun es same most =>
        readValue_alike depth fuel _ _ same most _ _ first
    obtain ⟨left, closed, last, shorter⟩ := skipBlanks_cons behind closed (by decide) (by decide)
    refine ⟨left, ?_, last, by simp; omega⟩
    simp only [readEntries, key, colon, own, closed]
  case case5 fuel _ _ _ text _ colon v _ first _ comma =>
    intro es rest read
    obtain ⟨⟨fs, _⟩, others, made⟩ := exists_of_map_ok read
    cases made
    obtain ⟨tail, more, rfl, rfl, behind, enough⟩ :=
      exists_fuel alike (by decide) (by decide) (Nat.le_of_succ_le enough)
    obtain ⟨keyed, valued, left, key, colon, own, behind, short⟩ :=
      entry_alike behind enough text colon fun es same most =>
        readValue_alike depth fuel _ _ same most _ _ first
    obtain ⟨tail, comma, behind, shorter⟩ := skipBlanks_cons behind comma (by decide) (by decide)
    have blank := length_skipBlanks_le tail
    obtain ⟨left, others, last, shortest⟩ := readEntries_alike depth fuel more _
      (skipBlanks_alike behind) (by omega) _ _ others
    refine ⟨left, ?_, last, by simp; omega⟩
    simp only [readEntries, key, colon, own, comma, others]
    rfl
  all_goals rintro _ _ ⟨⟩
termination_by fuel

end

end Json

end RecordCheck
