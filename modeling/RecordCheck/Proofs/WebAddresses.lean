import Mathlib
import RecordCheck.Proofs.WebHosts

/-!
# Web addresses

The rule for web addresses accepts exactly what its grammar says. As case does not count for its
pattern, the long s stands for the last letter of https, and some letters of host names are blank.

## Main definitions

* `Web.IsAddress`: the grammar.
* `Web.IsProper`: a text that begins like a web address and has no blanks.

## Main statements

* `Match.url_accepts_iff`: the rule accepts addresses, and those with a line break after them.
* `Match.url_accepts_improper`: texts that are accepted and not proper.
-/
set_option autoImplicit false

namespace RecordCheck

/-! ## Grammar -/

namespace Web

/-- The names of the protocols, in letters of either case; the last letter may be a long s. -/
def IsScheme (cs : List Char) : Prop :=
  cs.map Char.toLower ∈ ["http".toList, "https".toList, "httpſ".toList]

instance : DecidablePred IsScheme := fun _ => inferInstanceAs (Decidable (_ ∈ _))

def IsBlank (c : Char) : Prop := Pattern.Category.blank.contains true c.toNat = true

instance : DecidablePred IsBlank := fun _ => inferInstanceAs (Decidable (_ = true))

/-- Nothing, or something without blanks and an at sign. -/
def IsUser (cs : List Char) : Prop :=
  cs = [] ∨ ∃ user, user ≠ [] ∧ (∀ c ∈ user, ¬ IsBlank c) ∧ cs = user ++ ['@']

/-- Nothing, or a colon and two to five digits. -/
def IsPort (cs : List Char) : Prop :=
  cs = [] ∨ ∃ port, 2 ≤ port.length ∧ port.length ≤ 5 ∧ (∀ c ∈ port, c.isDigit = true) ∧
    cs = ':' :: port

/-- Nothing, or what a slash, a question mark or a number sign begins, without blanks. -/
def IsTail (cs : List Char) : Prop :=
  cs = [] ∨ ∃ mark rest, mark ∈ ['/', '?', '#'] ∧ (∀ c ∈ rest, ¬ IsBlank c) ∧ cs = mark :: rest

def IsAddress (cs : List Char) : Prop :=
  ∃ scheme user host port tail,
    cs = scheme ++ "://".toList ++ user ++ host ++ port ++ tail ∧
      IsScheme scheme ∧ IsUser user ∧ (IsFour host ∨ IsHost host) ∧ IsPort port ∧ IsTail tail

/-- A text that begins with http or https, in ASCII letters of either case, and has no blanks but
for a line break at its end. -/
def IsProper (text : List Char) : Prop :=
  (∃ scheme rest, text = scheme ++ "://".toList ++ rest ∧
    scheme.map Char.toLower ∈ ["http".toList, "https".toList]) ∧
  ∃ body, (text = body ∨ text = body ++ ['\n']) ∧ ∀ c ∈ body, ¬ IsBlank c

theorem toLower_eq_long {c : Char} : c.toLower = 'ſ' ↔ c = 'ſ' := by
  constructor
  · intro same
    by_cases capital : c.isUpper
    · have small := Char.isLower_toLower_eq_isAlpha c
      rw [same, Char.isAlpha, capital, Bool.true_or] at small
      exact absurd small (by decide)
    · exact (Char.toLower_eq_of_not_isUpper capital).symm.trans same
  · rintro rfl
    decide

/-- The name of a protocol is four letters in either case, and perhaps one of three. -/
theorem isScheme_iff {cs : List Char} : IsScheme cs ↔ ∃ name last, cs = name ++ last ∧
    name.map Char.toLower = "http".toList ∧
      (last = [] ∨ ∃ c, last = [c] ∧ (c.toLower = 's' ∨ c = 'ſ')) := by
  constructor
  · intro h
    simp only [IsScheme, List.mem_cons, List.not_mem_nil, or_false] at h
    have split (last : List Char) (same : cs.map Char.toLower = "http".toList ++ last) :
        ∃ name rest, cs = name ++ rest ∧ name.map Char.toLower = "http".toList ∧
          rest.map Char.toLower = last := List.map_eq_append_iff.1 same
    rcases h with same | same | same
    · obtain ⟨name, rest, rfl, first, others⟩ := split [] same
      exact ⟨name, rest, rfl, first, .inl (List.map_eq_nil_iff.1 others)⟩
    · obtain ⟨name, rest, rfl, first, others⟩ := split ['s'] same
      obtain ⟨c, rfl, small⟩ := List.map_eq_singleton_iff.1 others
      exact ⟨name, _, rfl, first, .inr ⟨c, rfl, .inl small⟩⟩
    · obtain ⟨name, rest, rfl, first, others⟩ := split ['ſ'] same
      obtain ⟨c, rfl, long⟩ := List.map_eq_singleton_iff.1 others
      exact ⟨name, _, rfl, first, .inr ⟨c, rfl, .inr (toLower_eq_long.1 long)⟩⟩
  · rintro ⟨name, _, rfl, first, rfl | ⟨c, rfl, small | rfl⟩⟩
    · simp [IsScheme, first]
    · simp [IsScheme, first, small]
    · simp [IsScheme, first]

end Web

namespace Pattern

open Web

section

variable {before taken after : List Char}

/-! ## Scheme -/

theorem toLower_eq_iff {c d : Char} (small : d.isLower = true) :
    c.toLower = d ↔ c = d ∨ c = d.toUpper := by
  have fixed : d.toLower = d := Char.toLower_eq_of_not_isUpper (Char.not_isUpper_of_isLower small)
  constructor
  · rintro rfl
    by_cases capital : c.isUpper
    · rw [Char.toUpper_toLower_eq_toUpper,
        Char.toUpper_eq_of_not_isLower (Char.not_isLower_of_isUpper capital)]
      exact .inr rfl
    · exact .inl (Char.toLower_eq_of_not_isUpper capital).symm
  · rintro (rfl | rfl)
    · exact fixed
    · rw [Char.toLower_toUpper_eq_toLower, fixed]

/-- A small letter of ASCII whose only other spelling is the capital letter. -/
structure IsPaired (d : Char) : Prop where
  small : d.isLower = true
  test : Single.ofChar urlFlags false d.toNat = .literal false .full d.toNat
  uppers : Text.uppers d.toNat = [d.toUpper.toNat]
  fixed : Text.lower d.toNat = d.toNat
  lower : Text.lower d.toUpper.toNat = d.toNat

theorem accepts_letter {c d : Char} (h : IsPaired d) :
    (Single.ofChar urlFlags false d.toNat).accepts c.toNat = true ↔ c.toLower = d := by
  rw [toLower_eq_iff h.small, h.test, Single.accepts, Bool.bne_false, beq_iff_eq, Folding.apply]
  constructor
  · intro same
    have spelled := Text.eq_or_mem_uppers c.toNat
    rw [same, h.uppers, List.mem_singleton] at spelled
    exact spelled.imp Char.toNat_inj.1 Char.toNat_inj.1
  · rintro (rfl | rfl)
    · exact h.fixed
    · exact h.lower

theorem isPaired_of_mem {d : Char} (h : d ∈ ['h', 't', 'p']) : IsPaired d := by
  simp only [List.mem_cons, List.not_mem_nil, or_false] at h
  rcases h with rfl | rfl | rfl
  all_goals
    exact ⟨rfl, by decide +kernel, by decide +kernel, by decide +kernel, by decide +kernel⟩

/-- The lower-case spellings that count as the same as a small s. -/
theorem lower_of_s_mem {code : Nat} (h : 's'.toNat ∈ Text.caseVariants code) :
    Text.lower code = 's'.toNat ∨ Text.lower code = 'ſ'.toNat := by
  have noSource : ∀ run ∈ Text.caseRuns, run.contains 's'.toNat = false := by decide +kernel
  have related : ∀ entry ∈ Text.relatedCases, 's'.toNat ∈ entry.2 → entry.1 = 'ſ'.toNat := by
    decide +kernel
  simp only [Text.caseVariants, List.mem_flatMap, List.mem_cons] at h
  obtain ⟨small, near, same | source⟩ := h
  · rcases near with rfl | member
    · exact .inl same.symm
    · obtain ⟨entry, known, first, inside⟩ := Text.mem_relatedCases member
      exact .inr (first ▸ related entry known (same ▸ inside))
  · obtain ⟨run, known, inside, -⟩ := Text.mem_uppers.1 source
    exact absurd inside (Bool.eq_false_iff.1 (noSource run known))

/-- The last letter of https has three spellings. -/
theorem accepts_s (c : Char) : (Single.ofChar urlFlags false 's'.toNat).accepts c.toNat = true ↔
    c.toLower = 's' ∨ c = 'ſ' := by
  have test : Single.ofChar urlFlags false 's'.toNat =
      .set false .full true [.single 's'.toNat] := by
    decide +kernel
  have passes (code : Nat) : (Single.set false .full true [.single 's'.toNat]).accepts code = true ↔
      's'.toNat ∈ Text.caseVariants (Text.lower code) := by
    rw [Single.accepts, Bool.bne_false, List.any_cons, List.any_nil, Bool.or_false, Folding.apply,
      SetItem.contains, if_neg (by decide), List.contains_iff_mem]
    rfl
  have back {code : Nat} (same : Text.lower code = 's'.toNat) :
      code = 's'.toNat ∨ code = 'S'.toNat := by
    have spelled := Text.eq_or_mem_uppers code
    rwa [same, show Text.uppers 's'.toNat = ['S'.toNat] by decide +kernel,
      List.mem_singleton] at spelled
  have backLong {code : Nat} (same : Text.lower code = 'ſ'.toNat) : code = 'ſ'.toNat := by
    have spelled := Text.eq_or_mem_uppers code
    rw [same, show Text.uppers 'ſ'.toNat = [] by decide +kernel] at spelled
    exact spelled.resolve_right List.not_mem_nil
  rw [test, passes, toLower_eq_iff rfl]
  constructor
  · intro member
    rcases lower_of_s_mem member with same | same
    · rcases back same with small | capital
      · exact .inl ((back small).imp Char.toNat_inj.1 Char.toNat_inj.1)
      · exact absurd (Text.not_capital_lower c.toNat) (by rw [capital]; decide)
    · exact .inr (Char.toNat_inj.1 (backLong (backLong same)))
  · rintro ((rfl | rfl) | rfl) <;> decide +kernel

/-- The parts up to the slashes. -/
def schemeParts : List Node :=
  [Node.one 'h', Node.one 't', Node.one 't', Node.one 'p'] ++
    ([Node.maybe [Node.one 's']] ++ [Node.one ':', Node.one '/', Node.one '/'])

theorem spansAll_letter {d : Char} (h : IsPaired d) {rest : List Node} :
    SpansAll urlFlags (.one d :: rest) before taken after ↔
      ∃ c others, taken = c :: others ∧ c.toLower = d ∧
        SpansAll urlFlags rest (c :: before) others after := by
  simp only [← accepts_letter h]
  exact spansAll_of_single rfl

theorem spans_s : (Node.maybe [.one 's']).Spans urlFlags before taken after ↔
    taken = [] ∨ ∃ c, taken = [c] ∧ (c.toLower = 's' ∨ c = 'ſ') := by
  simp only [spans_maybe, spansAll_single, ← accepts_s]
  rfl

theorem spans_slashes : SpansAll urlFlags [.one ':', .one '/', .one '/'] before taken after ↔
    taken = "://".toList := by
  simp (disch := decide) only [spansAll_cons, spans_one, spansAll_nil]
  constructor
  · rintro ⟨_, _, rfl, rfl, _, _, rfl, rfl, _, _, rfl, rfl, rfl⟩
    rfl
  · rintro rfl
    exact ⟨[':'], _, rfl, rfl, ['/'], _, rfl, rfl, ['/'], _, rfl, rfl, rfl⟩

theorem spans_http : SpansAll urlFlags [.one 'h', .one 't', .one 't', .one 'p'] before taken after ↔
    taken.map Char.toLower = "http".toList := by
  simp only [spansAll_letter (isPaired_of_mem (d := 'h') (by decide)),
    spansAll_letter (isPaired_of_mem (d := 't') (by decide)),
    spansAll_letter (isPaired_of_mem (d := 'p') (by decide)), spansAll_nil]
  constructor
  · rintro ⟨c, _, rfl, one, d, _, rfl, two, e, _, rfl, three, f, _, rfl, four, rfl⟩
    simp [one, two, three, four]
  · intro same
    obtain ⟨c, _, rfl, one, same⟩ := List.map_eq_cons_iff.1 same
    obtain ⟨d, _, rfl, two, same⟩ := List.map_eq_cons_iff.1 same
    obtain ⟨e, _, rfl, three, same⟩ := List.map_eq_cons_iff.1 same
    obtain ⟨f, _, rfl, four, same⟩ := List.map_eq_cons_iff.1 same
    obtain rfl := List.map_eq_nil_iff.1 same
    exact ⟨c, _, rfl, one, d, _, rfl, two, e, _, rfl, three, f, _, rfl, four, rfl⟩

theorem spans_scheme : SpansAll urlFlags schemeParts before taken after ↔
    ∃ scheme, IsScheme scheme ∧ taken = scheme ++ "://".toList := by
  simp only [schemeParts, spansAll_append, Span.andThen, spans_http, spansAll_single, spans_s,
    spans_slashes, isScheme_iff]
  constructor
  · rintro ⟨name, _, rfl, isName, last, _, rfl, isLast, rfl⟩
    exact ⟨_, ⟨name, last, rfl, isName, isLast⟩, by simp⟩
  · rintro ⟨_, ⟨name, last, rfl, isName, isLast⟩, rfl⟩
    exact ⟨name, _, by simp, isName, last, _, rfl, isLast, rfl⟩

/-! ## User -/

theorem accepts_notBlank (c : Char) :
    (Single.ofSet urlFlags false [.category .blank true]).accepts c.toNat = true ↔ ¬ IsBlank c := by
  rw [accepts_uncased rfl]
  simp [SetItem.contains, IsBlank, allScripts, urlFlags]

theorem spans_user : (Node.maybe [.plus [notBlank], .maybe [.one ':', .star [notBlank]],
    .one '@']).Spans urlFlags before taken after ↔ IsUser taken := by
  rw [spans_maybe, IsUser]
  refine or_congr_right ?_
  simp (disch := decide) only [spansAll_cons, spans_maybe, spans_one, spansAll_nil, Node.plus,
    Node.star, notBlank, spans_repeat_oneOf, accepts_notBlank]
  constructor
  · rintro ⟨user, _, rfl, ⟨some, -, known⟩, pass, _, rfl, isPass, _, _, rfl, rfl, rfl⟩
    refine ⟨user ++ pass, by simp [List.ne_nil_of_length_pos some], ?_, by simp⟩
    refine List.forall_mem_append.2 ⟨known, ?_⟩
    rcases isPass with rfl | ⟨_, _, rfl, rfl, secret, _, rfl, ⟨-, -, hidden⟩, rfl⟩
    · simp
    · exact List.forall_mem_cons.2 ⟨by decide, by simpa using hidden⟩
  · rintro ⟨user, some, known, rfl⟩
    exact ⟨user, _, rfl, ⟨List.length_pos_of_ne_nil some, by simp, known⟩, [], _, rfl, .inl rfl,
      ['@'], [], rfl, rfl, rfl⟩

/-! ## Ports and what follows -/

theorem spans_port : (Node.maybe [.one ':', .times 2 5 [digit]]).Spans urlFlags before taken after ↔
    IsPort taken := by
  rw [spans_maybe, IsPort]
  simp (disch := decide) only [spansAll_cons, spans_one, spansAll_nil, digit, Node.times,
    spans_repeat_oneOf, accepts_digit, Option.mem_some_iff, forall_eq']
  refine or_congr_right ⟨?_, ?_⟩
  · rintro ⟨_, _, rfl, rfl, port, _, rfl, ⟨least, most, digits⟩, rfl⟩
    exact ⟨port, least, most, digits, by simp⟩
  · rintro ⟨port, least, most, digits, rfl⟩
    exact ⟨[':'], port, rfl, rfl, port, [], by simp, ⟨least, most, digits⟩, rfl⟩

theorem accepts_tailMark (c : Char) :
    (Single.ofSet urlFlags false (SetItem.each ['/', '?', '#'])).accepts c.toNat = true ↔
      c ∈ ['/', '?', '#'] :=
  accepts_each rfl (by decide +kernel) c

theorem spans_tail : (Node.maybe [.oneOf (SetItem.each ['/', '?', '#']), .star [notBlank]]).Spans
    urlFlags before taken after ↔ IsTail taken := by
  rw [spans_maybe, IsTail, spansAll_oneOf]
  simp only [spansAll_single, accepts_tailMark, Node.star, notBlank, spans_repeat_oneOf,
    accepts_notBlank]
  refine or_congr_right ⟨?_, ?_⟩
  · rintro ⟨mark, rest, rfl, isMark, -, -, known⟩
    exact ⟨mark, rest, isMark, known, rfl⟩
  · rintro ⟨mark, rest, isMark, known, rfl⟩
    exact ⟨mark, rest, rfl, isMark, Nat.zero_le _, by simp, known⟩

/-! ## Addresses -/

/-- The parts of the pattern between its anchors. -/
def urlInner : List Node :=
  schemeParts ++
    [Node.maybe [Node.plus [notBlank], Node.maybe [Node.one ':', Node.star [notBlank]],
        Node.one '@'],
      Node.choice [addressParts, hostParts],
      Node.maybe [Node.one ':', Node.times 2 5 [digit]],
      Node.maybe [Node.oneOf (SetItem.each ['/', '?', '#']), Node.star [notBlank]]]

theorem url_isAnchored : url.IsAnchored urlFlags urlInner :=
  ⟨rfl, rfl, ⟨[], rfl⟩, rfl, ⟨0, rfl⟩⟩

theorem spans_someHost : (Node.choice [addressParts, hostParts]).Spans urlFlags before taken after ↔
    IsFour taken ∨ IsHost taken := by
  simp only [Node.Spans, SpansSome, spans_four, spans_host, or_false]

theorem spans_urlInner : SpansAll urlFlags urlInner before taken after ↔ IsAddress taken := by
  rw [urlInner, spansAll_append, IsAddress]
  simp only [Span.andThen, spans_scheme, spansAll_cons, spansAll_nil, spans_user, spans_someHost,
    spans_port, spans_tail]
  constructor
  · rintro ⟨_, _, rfl, ⟨scheme, isScheme, rfl⟩, user, _, rfl, isUser, host, _, rfl, isHost, port, _,
      rfl, isPort, tail, _, rfl, isTail, rfl⟩
    exact ⟨scheme, user, host, port, tail, by simp, isScheme, isUser, isHost, isPort, isTail⟩
  · rintro ⟨scheme, user, host, port, tail, rfl, isScheme, isUser, isHost, isPort, isTail⟩
    exact ⟨_, user ++ (host ++ (port ++ tail)), by simp, ⟨scheme, isScheme, rfl⟩, user, _, rfl,
      isUser, host, _, rfl, isHost, port, _, rfl, isPort, tail, [], by simp, isTail, rfl⟩

end

end Pattern

/-! ## Proper addresses -/

namespace Web

/-- The blanks of a text are wide. -/
def HasWideBlanks (cs : List Char) : Prop := ∀ c ∈ cs, IsBlank c → IsWide c

theorem hasWideBlanks_append {cs ds : List Char} :
    HasWideBlanks (cs ++ ds) ↔ HasWideBlanks cs ∧ HasWideBlanks ds :=
  List.forall_mem_append

theorem hasWideBlanks_cons {c : Char} {cs : List Char} :
    HasWideBlanks (c :: cs) ↔ (IsBlank c → IsWide c) ∧ HasWideBlanks cs :=
  List.forall_mem_cons

theorem hasWideBlanks_of_clear {cs : List Char} (h : ∀ c ∈ cs, ¬ IsBlank c) : HasWideBlanks cs :=
  fun c member blank => absurd blank (h c member)

theorem HasWideBlanks.intercalate {names : List (List Char)}
    (h : ∀ name ∈ names, HasWideBlanks name) : HasWideBlanks (['.'].intercalate names) := by
  cases names with
  | nil => simp [HasWideBlanks]
  | cons first names =>
    obtain ⟨one, others⟩ := List.forall_mem_cons.1 h
    rw [Pattern.intercalate_dots, hasWideBlanks_append]
    refine ⟨one, fun c member => ?_⟩
    obtain ⟨_, given, inside⟩ := List.mem_flatten.1 member
    obtain ⟨name, known, rfl⟩ := List.mem_map.1 given
    exact hasWideBlanks_cons.2 ⟨by decide, others name known⟩ c inside

theorem not_isBlank_of_isAlphanum {c : Char} (h : c.isAlphanum = true) : ¬ IsBlank c := by
  have known := (Pattern.isAlphanum_iff c).1 h
  simp [IsBlank, Pattern.Category.contains, Text.isBlank, Text.inRanges, Text.blankRanges]
  omega

theorem hasWideBlanks_of_letters {cs : List Char} (h : ∀ c ∈ cs, c.isAlphanum = true ∨ IsWide c) :
    HasWideBlanks cs := fun c member blank =>
  (h c member).resolve_left fun letter => not_isBlank_of_isAlphanum letter blank

theorem hasWideBlanks_of_digits {cs : List Char} (h : ∀ c ∈ cs, c.isDigit = true) :
    HasWideBlanks cs :=
  hasWideBlanks_of_letters fun c member => .inl (by simp [Char.isAlphanum, h c member])

theorem IsScheme.hasWideBlanks {cs : List Char} (h : IsScheme cs) : HasWideBlanks cs := by
  obtain ⟨name, last, rfl, isName, isLast⟩ := isScheme_iff.1 h
  have alpha {c : Char} (small : c.toLower.isAlpha = true) : c.isAlphanum = true := by
    simp [Char.isAlphanum, ← Char.isAlpha_toLower_eq_isAlpha c, small]
  refine hasWideBlanks_append.2 ⟨hasWideBlanks_of_letters fun c member => .inl (alpha ?_), ?_⟩
  · have inside : c.toLower ∈ "http".toList := isName ▸ List.mem_map_of_mem member
    have letters : ∀ d ∈ "http".toList, d.isAlpha = true := by simp
    exact letters _ inside
  · rcases isLast with rfl | ⟨c, rfl, small | rfl⟩
    · simp [HasWideBlanks]
    · have letter := alpha (c := c) (by rw [small]; rfl)
      exact hasWideBlanks_of_letters (List.forall_mem_singleton.2 (.inl letter))
    · exact hasWideBlanks_of_clear (List.forall_mem_singleton.2 (by decide))

theorem IsHost.hasWideBlanks {cs : List Char} (h : IsHost cs) : HasWideBlanks cs := by
  obtain ⟨names, top, dot, -, named, -, letters, isDot, rfl⟩ := h
  refine hasWideBlanks_append.2 ⟨.intercalate fun name member c inside blank => ?_,
    hasWideBlanks_cons.2 ⟨by decide, hasWideBlanks_append.2 ⟨hasWideBlanks_of_letters ?_, ?_⟩⟩⟩
  · rcases (named name member).known c inside with known | rfl
    · exact hasWideBlanks_of_letters (List.forall_mem_singleton.2 known) c (.head _) blank
    · exact absurd blank (by decide)
  · exact fun c member => (letters c member).imp_left fun letter => by
      simp [Char.isAlphanum, letter]
  · rcases isDot with rfl | rfl
    · simp [HasWideBlanks]
    · exact hasWideBlanks_of_clear (by simp; decide)

theorem IsFour.hasWideBlanks {cs : List Char} (h : IsFour cs) : HasWideBlanks cs := by
  obtain ⟨first, second, third, fourth, rfl, one, two, three, four⟩ := h
  refine .intercalate (List.forall_mem_cons.2 ⟨hasWideBlanks_of_digits one.digits, ?_⟩)
  simp [hasWideBlanks_of_digits two.digits, hasWideBlanks_of_digits three.digits,
    hasWideBlanks_of_digits four.digits]

/-- Only in the name of the host can an address have blanks, and these are wide. -/
theorem IsAddress.hasWideBlanks {text : List Char} (h : IsAddress text) : HasWideBlanks text := by
  obtain ⟨scheme, user, host, port, tail, rfl, isScheme, isUser, isHost, isPort, isTail⟩ := h
  have isUser : HasWideBlanks user := by
    obtain rfl | ⟨user, -, clear, rfl⟩ := isUser
    · simp [HasWideBlanks]
    · exact hasWideBlanks_append.2 ⟨hasWideBlanks_of_clear clear,
        hasWideBlanks_of_clear (List.forall_mem_singleton.2 (by decide))⟩
  have isPort : HasWideBlanks port := by
    obtain rfl | ⟨port, -, -, digits, rfl⟩ := isPort
    · simp [HasWideBlanks]
    · exact hasWideBlanks_cons.2 ⟨by decide, hasWideBlanks_of_digits digits⟩
  have isTail : HasWideBlanks tail := by
    obtain rfl | ⟨mark, rest, isMark, clear, rfl⟩ := isTail
    · simp [HasWideBlanks]
    · have marks : ∀ mark ∈ ['/', '?', '#'], ¬ IsBlank mark := by simp; decide
      exact hasWideBlanks_of_clear (List.forall_mem_cons.2 ⟨marks mark isMark, clear⟩)
  have slashes : HasWideBlanks "://".toList := hasWideBlanks_of_clear (by simp; decide)
  simp only [hasWideBlanks_append]
  exact ⟨⟨⟨⟨⟨isScheme.hasWideBlanks, slashes⟩, isUser⟩,
    isHost.elim IsFour.hasWideBlanks IsHost.hasWideBlanks⟩, isPort⟩, isTail⟩

theorem getElem?_four {name more : List Char} (h : name.map Char.toLower = "http".toList) :
    (name ++ more)[4]? = more.head? := by
  have four : name.length = 4 := by simpa using congrArg List.length h
  rw [List.getElem?_append_right four.le, four, List.head?_eq_getElem?]

theorem not_long_of_proper {text : List Char} (h : IsProper text) : text[4]? ≠ some 'ſ' := by
  obtain ⟨⟨scheme, rest, rfl, isScheme⟩, -⟩ := h
  simp only [List.mem_cons, List.not_mem_nil, or_false] at isScheme
  rcases isScheme with same | same
  · rw [List.append_assoc, getElem?_four same]
    simp
  · obtain ⟨name, _, rfl, isName, others⟩ :=
      List.map_eq_append_iff.1 (show _ = "http".toList ++ ['s'] from same)
    obtain ⟨c, rfl, small⟩ := List.map_eq_singleton_iff.1 others
    rw [List.append_assoc, List.append_assoc, getElem?_four isName]
    rintro long
    obtain rfl : c = 'ſ' := by simpa using long
    exact absurd small (by decide)

/-- An address begins properly if the fifth character is no long s. -/
theorem begins_of_address {text : List Char} (h : IsAddress text) (short : text[4]? ≠ some 'ſ') :
    ∃ scheme rest, text = scheme ++ "://".toList ++ rest ∧
      scheme.map Char.toLower ∈ ["http".toList, "https".toList] := by
  obtain ⟨scheme, user, host, port, tail, rfl, isScheme, -⟩ := h
  refine ⟨scheme, user ++ host ++ port ++ tail, by simp, ?_⟩
  obtain ⟨name, _, rfl, isName, rfl | ⟨c, rfl, small | rfl⟩⟩ := isScheme_iff.1 isScheme
  · simp [isName]
  · simp [isName, small]
  · simp only [List.append_assoc] at short
    exact absurd (getElem?_four isName) short

/-- What is accepted is proper unless the long s stands in the name of the protocol, or a blank
beyond Latin-1 in the name of the host. -/
theorem isProper_iff {text : List Char} (h : Pattern.IsWhole IsAddress text) :
    IsProper text ↔ text[4]? ≠ some 'ſ' ∧ ∀ c ∈ text, IsBlank c → c.toNat < 0xA1 := by
  constructor
  · rintro ⟨begins, body, whole, clear⟩
    refine ⟨not_long_of_proper ⟨begins, body, whole, clear⟩, fun c member blank => ?_⟩
    rcases whole with rfl | rfl
    · exact absurd blank (clear c member)
    · rcases List.mem_append.1 member with inside | last
      · exact absurd blank (clear c inside)
      · obtain rfl := List.mem_singleton.1 last
        decide
  · rintro ⟨short, small⟩
    obtain ⟨body, isAddress, whole⟩ := h
    have start : ∃ scheme rest, body = scheme ++ "://".toList ++ rest ∧
        scheme.map Char.toLower ∈ ["http".toList, "https".toList] := by
      refine begins_of_address isAddress fun long => short ?_
      obtain ⟨inside, -⟩ := List.getElem?_eq_some_iff.1 long
      rcases whole with rfl | rfl
      · exact long
      · rw [List.getElem?_append_left inside, long]
    have clear (c : Char) (member : c ∈ body) (blank : IsBlank c) : False := by
      have wide := (isAddress.hasWideBlanks c member blank).1
      have inside : c ∈ text := by
        rcases whole with rfl | rfl
        · exact member
        · exact List.mem_append_left _ member
      exact absurd (small c inside blank) (Nat.not_lt.2 wide)
    obtain ⟨scheme, rest, rfl, isScheme⟩ := start
    refine ⟨?_, _, whole, clear⟩
    rcases whole with rfl | rfl
    · exact ⟨scheme, rest, rfl, isScheme⟩
    · exact ⟨scheme, rest ++ ['\n'], by simp, isScheme⟩

end Web

/-! ## The rule -/

namespace Match

/-- The rule for web addresses accepts the text of an address, which a line break may follow, and
reports its code of any other text. What it accepts is proper, but for the long s and for wide
blanks. -/
theorem url_accepts_iff (s : String) :
    (url.apply (.str s) = .ok none ↔ Pattern.IsWhole Web.IsAddress s.toList) ∧
      (url.apply (.str s) = .ok none ∨ url.apply (.str s) = .ok (some (.str Code.wrongUrl))) ∧
      (url.apply (.str s) = .ok none → (Web.IsProper s.toList ↔
        s.toList[4]? ≠ some 'ſ' ∧ ∀ c ∈ s.toList, Web.IsBlank c → c.toNat < 0xA1)) := by
  obtain ⟨accepted, total⟩ :=
    apply_anchored (m := url) Pattern.url_isAnchored (fun _ _ => Pattern.spans_urlInner) s
  exact ⟨accepted, total, fun ok => Web.isProper_iff (accepted.1 ok)⟩

/-- An address whose protocol ends in a long s is accepted, and so is one with an ideographic space
in the name of the host. -/
theorem url_accepts_improper :
    (url.apply (.str "httpſ://example.com") = .ok none ∧
      ¬ Web.IsProper "httpſ://example.com".toList) ∧
    url.apply (.str "http://a\u3000b.com") = .ok none ∧
      ¬ Web.IsProper "http://a\u3000b.com".toList := by
  have accepts {s : String} (h : Web.IsAddress s.toList) : url.apply (.str s) = .ok none :=
    (apply_anchored (m := url) Pattern.url_isAnchored (fun _ _ => Pattern.spans_urlInner) s).1.2
      ⟨_, h, .inl rfl⟩
  have isHost (name : List Char) (named : Web.IsName name) : Web.IsHost (name ++ ".com".toList) :=
    ⟨[name], ['c', 'o', 'm'], [], by simp, by simpa using named, by decide, by simp, .inl rfl,
      by simp [List.intercalate]⟩
  have long : Web.IsAddress "httpſ://example.com".toList :=
    ⟨['h', 't', 't', 'p', 'ſ'], [], _, [], [], by simp, by decide +kernel, .inl rfl,
      .inr (isHost ['e', 'x', 'a', 'm', 'p', 'l', 'e']
        ⟨by simp, by simp [Web.IsWide], by simp, by simp⟩), .inl rfl, .inl rfl⟩
  have blank : Web.IsAddress "http://a\u3000b.com".toList :=
    ⟨['h', 't', 't', 'p'], [], _, [], [], by simp, by decide +kernel, .inl rfl,
      .inr (isHost ['a', '\u3000', 'b'] ⟨by simp, by simp [Web.IsWide], by simp, by simp⟩),
      .inl rfl, .inl rfl⟩
  refine ⟨⟨accepts long, ?_⟩, accepts blank, ?_⟩
  · rw [Web.isProper_iff ⟨_, long, .inl rfl⟩]
    exact fun h => h.1 rfl
  · rw [Web.isProper_iff ⟨_, blank, .inl rfl⟩]
    exact fun h => absurd (h.2 '\u3000' (by decide) (by decide)) (by decide)

end Match

end RecordCheck
