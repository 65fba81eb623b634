import Mathlib
import RecordCheck.Pattern.Character

/-!
# Characters whose case does not count

Where case is ignored, a character is compared by its lower-case spelling. What then passes a test
is found by going back: from a spelling to the characters that have it, and from ranges of code
points to themselves when case leads neither out of them nor into them.

## Main definitions

* `Text.isCaseClosed`: ranges that hold all spellings of a character or none.

## Main statements

* `Text.eq_or_mem_uppers`: the characters that have a given lower-case spelling.
* `Pattern.accepts_ranges`: what passes the test for ranges whose case does not count.
-/
set_option autoImplicit false

namespace RecordCheck

namespace Text

/-! ## Spellings -/

/-- The members of a run of upper-case characters are told by their code points and the distance to
their lower-case spellings. -/
theorem CaseRun.contains_bounds {run : CaseRun} {code : Nat} (inside : run.contains code = true) :
    run.first ≤ code ∧ code ≤ run.last := by
  simp only [CaseRun.contains, Bool.and_eq_true, decide_eq_true_eq] at inside
  exact inside.1

/-- No distance leads below zero. -/
theorem distance_bound : ∀ run ∈ caseRuns, 0 < run.first ∧ 0 ≤ run.first + run.distance := by
  decide +kernel

/-- The lower-case spelling of a character either is the character or lies at the distance of its
run. -/
theorem lower_cases (code : Nat) :
    lower code = code ∧ (∀ run ∈ caseRuns, run.contains code = false) ∨
    ∃ run ∈ caseRuns, run.contains code = true ∧ (lower code : Int) = code + run.distance := by
  unfold lower respelled
  split
  · next run found =>
    have known := List.mem_of_find?_eq_some found
    have inside : run.contains code = true := by simpa using List.find?_some found
    have low := (CaseRun.contains_bounds inside).1
    have bound := (distance_bound run known).2
    exact .inr ⟨run, known, inside, Int.toNat_of_nonneg (by omega)⟩
  · next missing =>
    exact .inl ⟨rfl, fun run known => by simpa using List.find?_eq_none.1 missing run known⟩

theorem mem_uppers {code source : Nat} : source ∈ uppers code ↔
    ∃ run ∈ caseRuns, run.contains source = true ∧ (code : Int) = source + run.distance := by
  simp only [uppers, List.mem_filterMap, Option.ite_none_right_eq_some, Option.some.injEq]
  refine exists_congr fun run => and_congr_right fun known => ?_
  obtain ⟨positive, bound⟩ := distance_bound run known
  constructor
  · rintro ⟨inside, rfl⟩
    have low := (CaseRun.contains_bounds inside).1
    exact ⟨inside, by omega⟩
  · rintro ⟨inside, same⟩
    have back : ((code : Int) - run.distance).toNat = source := by omega
    rw [back]
    exact ⟨inside, rfl⟩

/-- A character is its lower-case spelling or an upper-case spelling of that. -/
theorem eq_or_mem_uppers (code : Nat) : code = lower code ∨ code ∈ uppers (lower code) := by
  obtain ⟨same, -⟩ | ⟨run, known, inside, same⟩ := lower_cases code
  · exact .inl same.symm
  · exact .inr (mem_uppers.2 ⟨run, known, inside, same⟩)

/-- Digits and marks before the letters have one spelling. -/
theorem anyCased_of_lt {first last : Nat} (small : last < 0x41) : anyCased first last = false := by
  have letters : ∀ run ∈ caseRuns ++ upperRuns, 0x41 ≤ run.first := by decide +kernel
  have none {run : CaseRun} (known : run ∈ caseRuns ++ upperRuns) :
      run.meets first last = false := by
    have := letters run known
    simp only [CaseRun.meets, Bool.and_eq_false_iff, decide_eq_false_iff_not]
    omega
  simp only [anyCased, Bool.or_eq_false_iff, List.any_eq_false, Bool.not_eq_true]
  exact ⟨fun run known => none (List.mem_append_left _ known),
    fun run known => none (List.mem_append_right _ known)⟩

/-! ## Ranges -/

/-- Whether the code points between two all lie in one of the ranges. -/
def covers (ranges : List (Nat × Nat)) (first last : Int) : Bool :=
  ranges.any fun range => range.1 ≤ first && last ≤ range.2

/-- Whether none of the code points between two lies in any of the ranges. -/
def misses (ranges : List (Nat × Nat)) (first last : Int) : Bool :=
  ranges.all fun range => last < range.1 || range.2 < first

theorem inRanges_of_covers {ranges : List (Nat × Nat)} {first last : Int} {code : Nat}
    (h : covers ranges first last = true) (low : first ≤ code) (high : code ≤ last) :
    inRanges ranges code = true := by
  simp only [covers, inRanges, List.any_eq_true, Bool.and_eq_true, decide_eq_true_eq] at h ⊢
  obtain ⟨range, known, left, right⟩ := h
  exact ⟨range, known, by omega, by omega⟩

theorem not_inRanges_of_misses {ranges : List (Nat × Nat)} {first last : Int} {code : Nat}
    (h : misses ranges first last = true) (low : first ≤ code) (high : code ≤ last) :
    inRanges ranges code = false := by
  simp only [misses, inRanges, List.all_eq_true, List.any_eq_false, Bool.or_eq_true,
    Bool.and_eq_true, decide_eq_true_eq] at h ⊢
  intro range known inside
  rcases h range known with left | right <;> omega

/-- Whether ranges hold, of each run of characters and of their lower-case spellings, all or none,
and the same for related characters. -/
def isCaseClosed (ranges : List (Nat × Nat)) : Bool :=
  (caseRuns.all fun run =>
    let first := run.first + run.distance
    let last := run.last + run.distance
    covers ranges run.first run.last && covers ranges first last ||
      misses ranges run.first run.last && misses ranges first last) &&
  relatedCases.all fun entry =>
    entry.2.all fun other => inRanges ranges other == inRanges ranges entry.1

section

variable {ranges : List (Nat × Nat)}

/-- Ranges closed under case hold both a member of a run and its lower-case spelling, or neither. -/
theorem inRanges_run (closed : isCaseClosed ranges = true) {run : CaseRun} (known : run ∈ caseRuns)
    {code small : Nat} (inside : run.contains code = true)
    (same : (small : Int) = code + run.distance) :
    inRanges ranges small = inRanges ranges code := by
  obtain ⟨low, high⟩ := CaseRun.contains_bounds inside
  have each := List.all_eq_true.1 (Bool.and_eq_true_iff.1 closed).1 run known
  simp only [Bool.or_eq_true, Bool.and_eq_true] at each
  rcases each with ⟨upper, lower⟩ | ⟨upper, lower⟩
  · rw [inRanges_of_covers lower (by omega) (by omega),
      inRanges_of_covers upper (by omega) (by omega)]
  · rw [not_inRanges_of_misses lower (by omega) (by omega),
      not_inRanges_of_misses upper (by omega) (by omega)]

theorem inRanges_lower (closed : isCaseClosed ranges = true) (code : Nat) :
    inRanges ranges (lower code) = inRanges ranges code := by
  obtain ⟨same, -⟩ | ⟨run, known, inside, same⟩ := lower_cases code
  · rw [same]
  · exact inRanges_run closed known inside same

theorem inRanges_of_mem_uppers (closed : isCaseClosed ranges = true) {code source : Nat}
    (h : source ∈ uppers code) : inRanges ranges source = inRanges ranges code := by
  obtain ⟨run, known, inside, same⟩ := mem_uppers.1 h
  exact (inRanges_run closed known inside same).symm

theorem mem_relatedCases {small other : Nat} (h : other ∈ relatedTo small) :
    ∃ entry ∈ relatedCases, entry.1 = small ∧ other ∈ entry.2 := by
  rw [relatedTo] at h
  cases found : relatedCases.find? fun entry => entry.1 == small with
  | none => simp [found] at h
  | some entry =>
    refine ⟨entry, List.mem_of_find?_eq_some found, by simpa using List.find?_some found, ?_⟩
    simpa [found] using h

theorem inRanges_of_mem_relatedTo (closed : isCaseClosed ranges = true) {small other : Nat}
    (h : other ∈ relatedTo small) : inRanges ranges other = inRanges ranges small := by
  obtain ⟨entry, known, rfl, member⟩ := mem_relatedCases h
  have each := List.all_eq_true.1 (Bool.and_eq_true_iff.1 closed).2 entry known
  exact beq_iff_eq.1 (List.all_eq_true.1 each other member)

/-- Ranges closed under case hold all spellings of a character or none. -/
theorem inRanges_of_mem_caseVariants (closed : isCaseClosed ranges = true) {code other : Nat}
    (h : other ∈ caseVariants code) : inRanges ranges other = inRanges ranges code := by
  simp only [caseVariants, List.mem_flatMap, List.mem_cons] at h
  obtain ⟨small, near, spelled⟩ := h
  have similar : inRanges ranges small = inRanges ranges code := by
    rcases near with rfl | related
    · exact inRanges_lower closed code
    · rw [inRanges_of_mem_relatedTo closed related, inRanges_lower closed]
  rcases spelled with rfl | upper
  · exact similar
  · rw [inRanges_of_mem_uppers closed upper, similar]

end

theorem lower_mem_caseVariants (code : Nat) : lower code ∈ caseVariants code := by
  simp [caseVariants]

/-- No lower-case spelling is a capital letter. -/
theorem not_capital_lower (code : Nat) : inRanges [(0x41, 0x5A)] (lower code) = false := by
  obtain ⟨same, outside⟩ | ⟨run, known, inside, same⟩ := lower_cases code
  · have letters := outside ⟨0x41, 0x5A, 1, 32⟩ (.head _)
    rw [same]
    simpa [CaseRun.contains, inRanges, Nat.mod_one] using letters
  · have apart : ∀ run ∈ caseRuns,
        misses [(0x41, 0x5A)] (run.first + run.distance) (run.last + run.distance) = true := by
      decide +kernel
    obtain ⟨low, high⟩ := CaseRun.contains_bounds inside
    exact not_inRanges_of_misses (apart run known) (by omega) (by omega)

end Text

namespace Pattern

/-! ## Tests -/

theorem Folding.anyCased_of_lt (folding : Folding) {first last : Nat} (small : last < 0x41) :
    folding.anyCased first last = false := by
  cases folding with
  | none => rfl
  | ascii =>
    simp only [Folding.anyCased, Text.anyAsciiCased, Bool.or_eq_false_iff, Bool.and_eq_false_iff,
      decide_eq_false_iff_not]
    omega
  | full => exact Text.anyCased_of_lt small

/-- A digit or mark before the letters stands for itself. -/
theorem ofChar_of_lt {flags : PatternFlags} {negated : Bool} {code : Nat} (small : code < 0x41) :
    Single.ofChar flags negated code = .literal negated .none code := by
  simp [Single.ofChar, Folding.anyCased_of_lt _ small]

/-- A range of digits and marks before the letters stands for itself. -/
theorem isCased_of_lt {folding : Folding} {first last : Nat} (small : last < 0x41) :
    (SetItem.range first last).isCased folding = false := by
  rw [SetItem.isCased, Folding.anyCased_of_lt _ small, Bool.or_false]
  exact decide_eq_false (Nat.not_le.2 (small.trans (by decide)))

/-- Ranges of a set as its members. -/
def SetItem.spans (ranges : List (Nat × Nat)) : List SetItem :=
  ranges.map fun range => .range range.1 range.2

/-- Where case does not count, ranges in the basic plane with the lower-case letters stand for
themselves and the capital letters, when case does not lead out of these. -/
theorem accepts_ranges {ranges : List (Nat × Nat)} {scripts : Bool}
    (closed : Text.isCaseClosed ((0x41, 0x5A) :: ranges) = true)
    (basic : ∀ range ∈ ranges, range.2 < planeSize) (code : Nat) :
    (Single.set false .full scripts (SetItem.spans ranges)).accepts code =
      Text.inRanges ((0x41, 0x5A) :: ranges) code := by
  have each (folded : Nat) :
      (SetItem.spans ranges).any (SetItem.contains .full scripts folded) = true ↔
        ∃ other ∈ Text.caseVariants folded, Text.inRanges ranges other = true := by
    simp only [SetItem.spans, List.any_map, List.any_eq_true, Function.comp, SetItem.contains,
      Folding.spellings, Text.inRanges, reduceCtorEq, beq_iff_eq, if_false, Bool.or_eq_true,
      Bool.and_eq_true, decide_eq_true_eq]
    constructor
    · rintro ⟨range, known, ⟨other, spelled, inside, -⟩ | ⟨large, -⟩⟩
      · exact ⟨other, spelled, range, known, inside⟩
      · exact absurd (basic range known) (Nat.not_lt.2 large)
    · rintro ⟨other, spelled, range, known, inside⟩
      exact ⟨range, known, .inl ⟨other, spelled, inside, inside.2.trans_lt (basic range known)⟩⟩
  have wider (folded : Nat) : Text.inRanges ((0x41, 0x5A) :: ranges) folded =
      (Text.inRanges [(0x41, 0x5A)] folded || Text.inRanges ranges folded) := by
    simp [Text.inRanges]
  rw [Single.accepts, Bool.bne_false, Folding.apply, Bool.eq_iff_iff, each,
    ← Text.inRanges_lower closed]
  constructor
  · rintro ⟨other, spelled, inside⟩
    rw [← Text.inRanges_of_mem_caseVariants closed spelled, wider, inside, Bool.or_true]
  · intro inside
    refine ⟨_, Text.lower_mem_caseVariants _, ?_⟩
    rw [← Text.inRanges_lower closed, wider, Text.not_capital_lower, Bool.false_or] at inside
    exact inside

end Pattern

end RecordCheck
