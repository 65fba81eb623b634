import Mathlib.Data.List.Sort
import Mathlib.Data.String.Basic
import RecordCheck.Pattern.Flags

/-!
# Flags as a set of letters

Which flags letters stand for depends on nothing but which letters there are. So the letters of two
texts together stand for the union of what each text stands for, and they are refused exactly if one
of the texts is. The error names every unsupported letter once, in the order of code points.

## Main definitions

* `PatternFlags.ofSet`, `PatternFlags.ofChars`: the flags whose letters are among given ones.
* `PatternFlags.unsupported`: the letters that stand for no flags.

## Main statements

* `PatternFlags.ofLetters_eq`: what comes of letters.
* `PatternFlags.ofLetters_congr`: order, repetition and the letter for nothing do not count.
* `PatternFlags.letters_unite`: the same for the characters of texts.
-/
set_option autoImplicit false

namespace RecordCheck.PatternFlags

/-! ## Flags as numbers -/

/-- The number of a union has the binary digits of both numbers. -/
theorem bits_union (a b : PatternFlags) : (a.union b).bits = a.bits ||| b.bits := by
  have digits (i m s x i' m' s' x' : Bool) :
      bits ⟨i || i', m || m', s || s', x || x', none, false⟩ =
        bits ⟨i, m, s, x, none, false⟩ ||| bits ⟨i', m', s', x', none, false⟩ := by
    revert i m s x i' m' s' x'
    decide
  exact digits ..

/-! ## Letters in order -/

section

variable {letters more : List String}

/-- What is collected on the way stands in front of the rest. -/
theorem eraseReps_loop (letter : String) (acc : List String) :
    List.eraseRepsBy.loop (· == ·) letter letters acc =
      acc.reverse ++ (letter :: letters).eraseReps := by
  induction letters generalizing letter acc with
  | nil => simp [List.eraseReps, List.eraseRepsBy, List.eraseRepsBy.loop]
  | cons next letters ih =>
    rw [List.eraseReps, List.eraseRepsBy, List.eraseRepsBy.loop, List.eraseRepsBy.loop]
    split
    · rw [ih, ih, List.reverse_nil, List.nil_append]
    · rw [ih, ih, List.reverse_cons, List.append_assoc]
      rfl

theorem eraseReps_cons_cons (letter next : String) : (letter :: next :: letters).eraseReps =
    if letter = next then (next :: letters).eraseReps
    else letter :: (next :: letters).eraseReps := by
  rw [List.eraseReps, List.eraseRepsBy, List.eraseRepsBy.loop]
  by_cases same : letter = next
  · simp [same, eraseReps_loop]
  · simp [beq_eq_false_iff_ne.2 same, same, eraseReps_loop]

theorem mem_eraseReps {letter : String} : letter ∈ letters.eraseReps ↔ letter ∈ letters := by
  induction letters with
  | nil => rfl
  | cons first letters ih =>
    cases letters with
    | nil => rfl
    | cons next letters =>
      rw [eraseReps_cons_cons]
      split
      · next same =>
        rw [ih, same]
        simp
      · rw [List.mem_cons, ih, List.mem_cons (a := letter) (b := first)]

theorem pairwise_eraseReps (sorted : letters.Pairwise (· ≤ ·)) :
    letters.eraseReps.Pairwise (· < ·) := by
  induction letters with
  | nil => exact .nil
  | cons first letters ih =>
    cases letters with
    | nil => exact List.pairwise_singleton _ _
    | cons next letters =>
      obtain ⟨least, sorted'⟩ := List.pairwise_cons.1 sorted
      rw [eraseReps_cons_cons]
      split
      · exact ih sorted'
      · next differ =>
        refine List.pairwise_cons.2 ⟨fun letter member => ?_, ih sorted'⟩
        have first_lt : first < next := lt_of_le_of_ne (least next (.head _)) differ
        rcases List.mem_cons.1 (mem_eraseReps.1 member) with rfl | later
        · exact first_lt
        · exact first_lt.trans_le ((List.pairwise_cons.1 sorted').1 letter later)

theorem mem_sortedOnce {letter : String} : letter ∈ sortedOnce letters ↔ letter ∈ letters := by
  rw [sortedOnce, mem_eraseReps, List.mem_mergeSort]

theorem sortedOnce_pairwise (letters : List String) : (sortedOnce letters).Pairwise (· < ·) := by
  refine pairwise_eraseReps ((List.pairwise_mergeSort ?_ ?_ letters).imp of_decide_eq_true)
  · intro a b c first second
    exact decide_eq_true ((of_decide_eq_true first).trans (of_decide_eq_true second))
  · intro a b
    simpa using le_total a b

theorem sortedOnce_congr (same : ∀ letter, letter ∈ letters ↔ letter ∈ more) :
    sortedOnce letters = sortedOnce more :=
  (sortedOnce_pairwise letters).eq_of_mem_iff (sortedOnce_pairwise more) fun letter => by
    rw [mem_sortedOnce, mem_sortedOnce, same]

end

/-! ## What comes of letters -/

/-- The letters that stand for flags. -/
def supported : List String := ["i", "m", "s", "x", "u"]

/-- The flags that are among letters. -/
def ofSet (letters : List String) : PatternFlags :=
  { ignoreCase := letters.contains "i", multiline := letters.contains "m",
    dotAll := letters.contains "s", verbose := letters.contains "x" }

/-- The letters that stand for no flags, each once and in order. -/
def unsupported (letters : List String) : List String :=
  sortedOnce (letters.filter fun letter => !supported.contains letter)

section

variable {letter : String} {letters more : List String}

theorem union_assoc (a b c : PatternFlags) : (a.union b).union c = a.union (b.union c) := by
  simp only [union, Bool.or_assoc, Option.or_assoc]

theorem union_empty (flags : PatternFlags) : flags.union {} = flags := by
  simp [union]

theorem ofSet_append : ofSet (letters ++ more) = (ofSet letters).union (ofSet more) := by
  simp [ofSet, union]

theorem not_mem_supported : letter ∉ supported ↔
    letter ≠ "i" ∧ letter ≠ "m" ∧ letter ≠ "s" ∧ letter ≠ "x" ∧ letter ≠ "u" := by
  simp [supported]

theorem ofLetter?_eq (letter : String) :
    ofLetter? letter = if letter ∈ supported then some (ofSet [letter]) else none := by
  unfold ofLetter?
  split
  iterate 5 rfl
  next notI notM notS notX notU =>
    exact (if_neg (not_mem_supported.2 ⟨notI, notM, notS, notX, notU⟩)).symm

theorem ofSet_of_not_mem (unknown : letter ∉ supported) : ofSet [letter] = {} := by
  obtain ⟨notI, notM, notS, notX, -⟩ := not_mem_supported.1 unknown
  simp [ofSet, notI.symm, notM.symm, notS.symm, notX.symm]

/-- Letters are taken in one after the other, and those that stand for no flags are skipped. -/
theorem foldl_union (flags : PatternFlags) :
    (letters.filterMap ofLetter?).foldl union flags = flags.union (ofSet letters) := by
  induction letters generalizing flags with
  | nil => exact (union_empty flags).symm
  | cons letter letters ih =>
    have first : ofSet (letter :: letters) = (ofSet [letter]).union (ofSet letters) :=
      show ofSet ([letter] ++ letters) = _ from ofSet_append
    rw [List.filterMap_cons, ofLetter?_eq, first, ← union_assoc]
    by_cases known : letter ∈ supported
    · rw [if_pos known]
      exact ih _
    · rw [if_neg known, ofSet_of_not_mem known, union_empty]
      exact ih _

/-- Letters stand for the flags among them if all stand for flags, and the error names the others
once and in order. -/
theorem ofLetters_eq (letters : List String) : ofLetters letters =
    if ∀ letter ∈ letters, letter ∈ supported then .ok (ofSet letters)
    else .error (.unsupportedFlags (String.join (unsupported letters))) := by
  have tests : (fun letter => (ofLetter? letter).isNone) =
      fun letter => !supported.contains letter := by
    funext letter
    rw [ofLetter?_eq]
    by_cases known : letter ∈ supported <;> simp [known]
  have read : (letters.filterMap ofLetter?).foldl union {} = ofSet letters := by
    rw [foldl_union]
    simp [union, ofSet]
  rw [ofLetters, tests, read]
  split
  · next known =>
    rw [if_pos]
    simpa using known
  · next refused =>
    rw [if_neg, unsupported]
    simpa [List.filter_eq_nil_iff] using refused

/-- Only which letters there are counts, and not even that of the letter that changes nothing. -/
theorem ofLetters_congr
    (same : ∀ letter, letter ≠ "u" → (letter ∈ letters ↔ letter ∈ more)) :
    ofLetters letters = ofLetters more := by
  have set : ofSet letters = ofSet more := by
    have test {letter : String} (other : letter ≠ "u") :
        letters.contains letter = more.contains letter := by
      rw [Bool.eq_iff_iff, List.contains_iff_mem, List.contains_iff_mem]
      exact same letter other
    simp only [ofSet]
    rw [test (by decide), test (by decide), test (by decide), test (by decide)]
  have unknown (letter : String) :
      letter ∈ letters ∧ letter ∉ supported ↔ letter ∈ more ∧ letter ∉ supported :=
    and_congr_left fun unknown => same letter fun last => unknown (last ▸ by decide)
  -- a letter that is unsupported in one place would be so in the other
  have all : (∀ letter ∈ letters, letter ∈ supported) ↔ ∀ letter ∈ more, letter ∈ supported := by
    simpa only [not_and, not_not] using forall_congr' fun letter => not_congr (unknown letter)
  have refused : unsupported letters = unsupported more :=
    sortedOnce_congr fun letter => by simpa using unknown letter
  rw [ofLetters_eq, ofLetters_eq, set, refused]
  simp only [all]

end

/-! ## Letters of texts -/

section

variable {s a b : String} {c : Char}

/-- The characters of a text as letters. -/
def lettersOf (s : String) : List String := s.toList.map fun c => String.ofList [c]

theorem texts?_str (letters : List String) : texts? (letters.map .str) = some letters := by
  induction letters with
  | nil => rfl
  | cons letter letters ih => rw [List.map_cons, texts?, ih, Option.map_some]

theorem ofValue_str (s : String) : ofValue (.str s) = ofLetters (lettersOf s) := by
  have texts : (Value.str s).members?.bind texts? = some (lettersOf s) := by
    rw [← texts?_str, lettersOf, List.map_map]
    rfl
  simp only [ofValue, texts]
  cases ofLetters (lettersOf s) <;> rfl

theorem mem_lettersOf : String.ofList [c] ∈ lettersOf s ↔ c ∈ s.toList := by
  simp [lettersOf]

theorem lettersOf_append : lettersOf (a ++ b) = lettersOf a ++ lettersOf b := by
  simp [lettersOf]

theorem ofList_mem_supported : String.ofList [c] ∈ supported ↔ c ∈ "imsxu".toList := by
  rw [show supported = lettersOf "imsxu" by decide]
  exact mem_lettersOf

theorem mem_unsupported {letter : String} : letter ∈ unsupported (lettersOf s) ↔
    ∃ c, letter = String.ofList [c] ∧ c ∈ s.toList ∧ c ∉ "imsxu".toList := by
  simp only [unsupported, mem_sortedOnce, List.mem_filter, Bool.not_eq_true',
    List.contains_eq_mem, decide_eq_false_iff_not]
  constructor
  · rintro ⟨member, unknown⟩
    obtain ⟨c, inside, rfl⟩ := List.mem_map.1 member
    exact ⟨c, rfl, inside, fun known => unknown (ofList_mem_supported.2 known)⟩
  · rintro ⟨c, rfl, inside, unknown⟩
    exact ⟨mem_lettersOf.2 inside, fun known => unknown (ofList_mem_supported.1 known)⟩

/-- The error for a text shows each unsupported character once, in the order of code points. -/
theorem unsupported_shown (s : String) :
    let shown := (String.join (unsupported (lettersOf s))).toList
    shown.Pairwise (· < ·) ∧ ∀ c, c ∈ shown ↔ c ∈ s.toList ∧ c ∉ "imsxu".toList := by
  intro shown
  have parts : shown = (unsupported (lettersOf s)).flatMap String.toList := String.toList_join
  rw [parts]
  constructor
  · refine List.pairwise_flatMap.2 ⟨fun letter member => ?_, ?_⟩
    · obtain ⟨c, rfl, -⟩ := mem_unsupported.1 member
      rw [String.toList_ofList]
      exact List.pairwise_singleton _ _
    · refine (sortedOnce_pairwise _).imp_of_mem fun {first second} one two before => ?_
      obtain ⟨c, rfl, -⟩ := mem_unsupported.1 one
      obtain ⟨d, rfl, -⟩ := mem_unsupported.1 two
      rw [String.lt_iff_toList_lt, String.toList_ofList, String.toList_ofList] at before
      simpa [List.cons_lt_cons_iff] using before
  · intro c
    constructor
    · intro member
      obtain ⟨letter, one, inside⟩ := List.mem_flatMap.1 member
      obtain ⟨d, rfl, known⟩ := mem_unsupported.1 one
      rw [String.toList_ofList, List.mem_singleton] at inside
      exact inside ▸ known
    · intro known
      exact List.mem_flatMap.2 ⟨_, mem_unsupported.2 ⟨c, rfl, known⟩, by simp⟩

/-- The flags whose letters occur in a text. -/
def ofChars (cs : List Char) : PatternFlags :=
  { ignoreCase := cs.contains 'i', multiline := cs.contains 'm', dotAll := cs.contains 's',
    verbose := cs.contains 'x' }

theorem ofSet_lettersOf (s : String) : ofSet (lettersOf s) = ofChars s.toList := by
  have test (c : Char) : (lettersOf s).contains (String.ofList [c]) = s.toList.contains c := by
    rw [Bool.eq_iff_iff, List.contains_iff_mem, List.contains_iff_mem, mem_lettersOf]
  have i := test 'i'
  have m := test 'm'
  have s' := test 's'
  have x := test 'x'
  simp only [String.reduceOfList] at i m s' x
  rw [ofSet, ofChars, i, m, s', x]

theorem supported_iff : (∀ letter ∈ lettersOf s, letter ∈ supported) ↔
    ∀ c ∈ s.toList, c ∈ "imsxu".toList := by
  simp only [lettersOf, List.forall_mem_map, ofList_mem_supported]

theorem ofValue_str_of_supported (known : ∀ c ∈ s.toList, c ∈ "imsxu".toList) :
    ofValue (.str s) = .ok (ofChars s.toList) := by
  rw [ofValue_str, ofLetters_eq, ofSet_lettersOf, if_pos (supported_iff.2 known)]

theorem ofValue_str_of_unsupported (unknown : ¬ ∀ c ∈ s.toList, c ∈ "imsxu".toList) :
    ofValue (.str s) = .error (.unsupportedFlags (String.join (unsupported (lettersOf s)))) := by
  rw [ofValue_str, ofLetters_eq, if_neg (mt supported_iff.1 unknown)]

theorem ofValue_str_ok_iff {flags : PatternFlags} : ofValue (.str s) = .ok flags ↔
    (∀ c ∈ s.toList, c ∈ "imsxu".toList) ∧ flags = ofChars s.toList := by
  by_cases known : ∀ c ∈ s.toList, c ∈ "imsxu".toList
  · simp only [ofValue_str_of_supported known, Except.ok.injEq, eq_comm, and_iff_right known]
  · simp only [ofValue_str_of_unsupported known, reduceCtorEq, known, false_and]

theorem ofValue_str_error_iff : (∃ e, ofValue (.str s) = .error e) ↔
    ¬ ∀ c ∈ s.toList, c ∈ "imsxu".toList := by
  by_cases known : ∀ c ∈ s.toList, c ∈ "imsxu".toList
  · rw [ofValue_str_of_supported known]
    exact iff_of_false (by rintro ⟨_, ⟨⟩⟩) (not_not_intro known)
  · exact iff_of_true ⟨_, ofValue_str_of_unsupported known⟩ known

theorem ofChars_append {cs ds : List Char} :
    ofChars (cs ++ ds) = (ofChars cs).union (ofChars ds) := by
  simp [ofChars, union]

theorem ofValue_str_congr (same : ∀ c, c ≠ 'u' → (c ∈ a.toList ↔ c ∈ b.toList)) :
    ofValue (.str a) = ofValue (.str b) := by
  rw [ofValue_str, ofValue_str]
  refine ofLetters_congr fun letter other => ?_
  have half {a b : String} (same : ∀ c, c ≠ 'u' → c ∈ a.toList → c ∈ b.toList)
      (member : letter ∈ lettersOf a) : letter ∈ lettersOf b := by
    obtain ⟨c, inside, rfl⟩ := List.mem_map.1 member
    exact mem_lettersOf.2 (same c (fun last => other (last ▸ rfl)) inside)
  exact ⟨half fun c other => (same c other).1, half fun c other => (same c other).2⟩

/-- A text stands for the flags whose letters it has. The letters of two texts together stand for
the union of what each stands for, in numbers for the bitwise or, and they are refused if one of the
texts is. Order, repetition and the letter u never count. The error shows each unsupported letter
once, in the order of code points. -/
theorem letters_unite :
    (∀ s flags, ofValue (.str s) = .ok flags ↔
      (∀ c ∈ s.toList, c ∈ "imsxu".toList) ∧ flags = ofChars s.toList) ∧
    (∀ a b : String,
      ((∃ e, ofValue (.str (a ++ b)) = .error e) ↔
        (∃ e, ofValue (.str a) = .error e) ∨ ∃ e, ofValue (.str b) = .error e) ∧
      ∀ x y, ofValue (.str a) = .ok x → ofValue (.str b) = .ok y →
        ∃ z, ofValue (.str (a ++ b)) = .ok z ∧ z = x.union y ∧ z.bits = x.bits ||| y.bits) ∧
    (∀ a b : String, (∀ c, c ≠ 'u' → (c ∈ a.toList ↔ c ∈ b.toList)) →
      ofValue (.str a) = ofValue (.str b)) ∧
    ∀ s e, ofValue (.str s) = .error e → ∃ shown : String,
      e.kind = .fault .badValue ∧ e.message? = some ("Unsupported regex flags: " ++ shown) ∧
        shown.toList.Pairwise (· < ·) ∧
        ∀ c, c ∈ shown.toList ↔ c ∈ s.toList ∧ c ∉ "imsxu".toList := by
  refine ⟨fun s flags => ofValue_str_ok_iff, fun a b => ⟨?_, fun x y read read' => ?_⟩,
    fun a b => ofValue_str_congr, fun s e failed => ?_⟩
  · rw [ofValue_str_error_iff, ofValue_str_error_iff, ofValue_str_error_iff, ← not_and_or,
      String.toList_append, List.forall_mem_append]
  · obtain ⟨known, rfl⟩ := ofValue_str_ok_iff.1 read
    obtain ⟨known', rfl⟩ := ofValue_str_ok_iff.1 read'
    refine ⟨_, ofValue_str_ok_iff.2 ⟨?_, rfl⟩, ?_, ?_⟩
    · rw [String.toList_append]
      exact List.forall_mem_append.2 ⟨known, known'⟩
    · rw [String.toList_append, ofChars_append]
    · rw [String.toList_append, ofChars_append, bits_union]
  · have unknown := ofValue_str_error_iff.1 ⟨e, failed⟩
    obtain rfl := Except.error.inj ((ofValue_str_of_unsupported unknown).symm.trans failed)
    exact ⟨_, rfl, rfl, unsupported_shown s⟩

/-- A letter that is repeated, in both texts and beside the one for nothing, and letters that are
refused. -/
theorem letters_unite_repeated :
    (ofValue (.str "ius") = .ok { ignoreCase := true, dotAll := true } ∧
      ofValue (.str "mss") = .ok { multiline := true, dotAll := true } ∧
      ∃ z, ofValue (.str "iusmss") = .ok z ∧ z.bits = 18 ||| 24) ∧
    ofValue (.str "iusmss") = ofValue (.str "smi") ∧
    ∃ e shown, ofValue (.str "zqaiq") = .error e ∧
      e.message? = some ("Unsupported regex flags: " ++ shown) ∧
      shown.toList.Pairwise (· < ·) ∧ ∀ c, c ∈ shown.toList ↔ c ∈ ['a', 'q', 'z'] := by
  obtain ⟨stands, unite, same, refused⟩ := letters_unite
  have first : ofValue (.str "ius") = .ok { ignoreCase := true, dotAll := true } :=
    (stands _ _).2 ⟨by simp, by decide⟩
  have second : ofValue (.str "mss") = .ok { multiline := true, dotAll := true } :=
    (stands _ _).2 ⟨by simp, by decide⟩
  obtain ⟨z, read, -, bits⟩ := (unite "ius" "mss").2 _ _ first second
  refine ⟨⟨first, second, z, read, bits⟩, same _ _ ?_, ?_⟩
  · have there : ∀ c ∈ "iusmss".toList, c ≠ 'u' → c ∈ "smi".toList := by simp
    have back : ∀ c ∈ "smi".toList, c ∈ "iusmss".toList := by simp
    exact fun c other => ⟨fun inside => there c inside other, back c⟩
  · cases failed : ofValue (.str "zqaiq") with
    | ok flags => exact absurd ((stands _ _).1 failed).1 (by simp)
    | error e =>
      obtain ⟨shown, -, message, sorted, members⟩ := refused _ e failed
      have there : ∀ c ∈ "zqaiq".toList, c ∉ "imsxu".toList → c ∈ ['a', 'q', 'z'] := by simp
      have back : ∀ c ∈ ['a', 'q', 'z'], c ∈ "zqaiq".toList ∧ c ∉ "imsxu".toList := by simp
      exact ⟨e, shown, rfl, message, sorted,
        fun c => (members c).trans ⟨fun h => there c h.1 h.2, back c⟩⟩

end

end RecordCheck.PatternFlags
