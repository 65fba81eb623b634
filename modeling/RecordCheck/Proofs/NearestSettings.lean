import RecordCheck.Proofs.Ways

/-!
# The nearest settings file

A search goes from a directory upward and takes the first settings file that there is. It fails only
if the path of the settings file in the directory that it begins in is too long to be looked up, or
if the text of the directory holds the null character.

## Main definitions

* `Path.upward`: a directory and those above it, the nearest first.
* `Files.holds`: whether something lies at a path.
* `Files.hasSettings`: whether a directory of the tree has a settings file.
* `Files.IsProper`: files with names that directories can have.

## Main statements

* `Files.IsTooLong.below`: what is too long to be looked up is so further down as well.
* `Files.find_error_iff`, `Files.find_ok_iff`: what comes of a search.
* `Files.find_nearest`: searches give the nearest settings file.
-/
set_option autoImplicit false

namespace RecordCheck

/-! ## Directories and those above them -/

namespace Path

/-- The path of the settings file in a directory. -/
def settingsFile (directory : Path) : Path :=
  ⟨directory.base, directory.steps ++ [Files.settingsName]⟩

/-- A directory and those above it, the nearest first. What lies above the top stands for one. -/
def upward (directory : Path) : List Path :=
  directory.steps.inits.reverse.map (⟨directory.base, ·⟩) ++
    if directory.base = .top then [⟨.system, []⟩] else []

theorem upward_nil (base : Base) :
    upward ⟨base, []⟩ = ⟨base, []⟩ :: if base = .top then [⟨.system, []⟩] else [] := rfl

theorem upward_concat (base : Base) (names : List String) (name : String) :
    upward ⟨base, names ++ [name]⟩ = ⟨base, names ++ [name]⟩ :: upward ⟨base, names⟩ := by
  simp [upward, List.inits_append]

/-- What is above a directory lies on the way to it or outside. -/
theorem mem_upward {directory above : Path} (h : above ∈ directory.upward) :
    above = ⟨.system, []⟩ ∨ ∃ more, directory = ⟨above.base, above.steps ++ more⟩ := by
  rcases List.mem_append.1 h with inner | outer
  · obtain ⟨names, known, rfl⟩ := List.mem_map.1 inner
    obtain ⟨more, whole⟩ := (List.mem_inits _ _).1 (List.mem_reverse.1 known)
    exact .inr ⟨more, by rw [whole]⟩
  · split at outer
    · exact .inl (List.mem_singleton.1 outer)
    · cases outer

/-- From a directory above, the way up is the same. -/
theorem dropWhile_upward {directory above : Path} (h : above ∈ directory.upward) :
    directory.upward.dropWhile (· != above) = above.upward := by
  obtain ⟨base, steps⟩ := directory
  -- the way up takes the last name away first
  induction steps using List.reverseRecOn with
  | nil =>
    rw [upward_nil] at h ⊢
    by_cases same : above = ⟨base, []⟩
    · rw [same, List.dropWhile_cons_of_neg (by simp), upward_nil]
    · have further := (List.mem_cons.1 h).resolve_left same
      split at further
      · next inner =>
        obtain rfl := List.mem_singleton.1 further
        rw [List.dropWhile_cons_of_pos (by simpa using Ne.symm same), if_pos inner]
        rfl
      · cases further
  | append_singleton names name ih =>
    rw [upward_concat] at h ⊢
    by_cases same : above = ⟨base, names ++ [name]⟩
    · rw [same, List.dropWhile_cons_of_neg (by simp), upward_concat]
    · rw [List.dropWhile_cons_of_pos (by simpa using Ne.symm same),
        ih ((List.mem_cons.1 h).resolve_left same)]

/-! ## Paths of settings files -/

theorem settingsName_plain : Files.settingsName ≠ ".." ∧ hasNull Files.settingsName = false :=
  ⟨by decide, rfl⟩

theorem size_settingsName : Files.settingsName.utf8ByteSize = 16 := rfl

/-- What stands in front of the steps of a path. -/
def lead (topName : String) : Base → String
  | .current => ""
  | .top => topName ++ "/"
  | .system => "/"
  | .otherRoot => "//"

theorem text_settingsFile (topName : String) (directory : Path) :
    directory.settingsFile.text topName =
      lead topName directory.base ++ "/".intercalate (directory.steps ++ [Files.settingsName]) := by
  obtain ⟨base, steps⟩ := directory
  cases base <;> simp [settingsFile, text, lead]

theorem hasNull_settingsFile {topName : String} {directory : Path}
    (free : hasNull topName = false) (plain : directory.IsPlain) :
    hasNull (directory.settingsFile.text topName) = false := by
  have leads : hasNull (lead topName directory.base) = false := by
    cases directory.base with
    | top =>
      rw [lead, hasNull_append, free]
      rfl
    | _ => simp [lead, hasNull]
  rw [text_settingsFile, hasNull_append, leads, Bool.false_or]
  refine hasNull_intercalate (List.forall_mem_append.2 ⟨fun name member => ?_, ?_⟩)
  · exact (plain name member).2
  · exact List.forall_mem_singleton.2 settingsName_plain.2

theorem size_settingsFile (topName : String) (directory : Path) :
    (directory.settingsFile.text topName).utf8ByteSize =
      (lead topName directory.base).utf8ByteSize +
        (directory.steps.map fun name => name.utf8ByteSize + 1).sum + 16 := by
  have inhabited : directory.steps ++ [Files.settingsName] ≠ [] := by simp
  have joined := size_intercalate inhabited
  rw [List.map_append, List.sum_append, List.map_singleton, List.sum_singleton, size_settingsName]
    at joined
  rw [text_settingsFile, String.utf8ByteSize_append]
  omega

/-- The settings file of a directory below has the longer path. -/
theorem size_settingsFile_le (topName : String) (base : Base) (names more : List String) :
    ((settingsFile ⟨base, names⟩).text topName).utf8ByteSize ≤
      ((settingsFile ⟨base, names ++ more⟩).text topName).utf8ByteSize := by
  rw [size_settingsFile, size_settingsFile, List.map_append, List.sum_append]
  dsimp only
  omega

end Path

namespace Files

open RecordCheck.Path

variable {files : Files} {start : Option String}

/-! ## What lies in directories -/

/-- Whether something lies at a path. -/
def holds (files : Files) (path : Path) : Bool := (files.follow path).isOk

/-- Files with names that directories can have. -/
structure IsProper (files : Files) : Prop where
  topName : hasNull files.topName = false
  current : IsPlain ⟨.top, files.current⟩

theorem settingsFile_isPlain {directory : Path} (plain : directory.IsPlain) :
    directory.settingsFile.IsPlain :=
  List.forall_mem_append.2 ⟨plain, List.forall_mem_singleton.2 settingsName_plain⟩

/-- If the path of a settings file is too long, so are those further down. -/
theorem IsTooLong.below {base : Base} {names more : List String}
    (named : hasNull files.topName = false) (plain : IsPlain ⟨base, names ++ more⟩)
    (long : files.IsTooLong (settingsFile ⟨base, names⟩)) :
    files.IsTooLong (settingsFile ⟨base, names ++ more⟩) := by
  refine ⟨hasNull_settingsFile named plain, ?_⟩
  rcases long.2 with bytes | ⟨front, name, rest, place, split, reached, isOpen, other, size⟩
  · exact .inl (bytes.trans_le (size_settingsFile_le _ _ _ _))
  · have differ : name ≠ settingsName := by
      rintro rfl
      rw [size_settingsName] at size
      exact absurd size (by decide)
    -- so it is one of the names above, and it is come upon further down as well
    obtain ⟨rest, rfl⟩ : ∃ rest, names = front ++ name :: rest := by
      rcases List.append_eq_append_iff.1 split with ⟨between, -, last⟩ | ⟨between, whole, last⟩
      · have : name ∈ [settingsName] := last ▸ List.mem_append_right _ (.head _)
        exact absurd (List.mem_singleton.1 this) differ
      · cases between with
        | nil => exact absurd (List.cons.inj last).1 differ
        | cons _ between =>
          obtain ⟨rfl, -⟩ := List.cons.inj last
          exact ⟨between, whole⟩
    exact .inr ⟨front, name, rest ++ more ++ [settingsName], place, by simp [settingsFile], reached,
      isOpen, other, size⟩

theorem holds_inside {names : List String} (named : hasNull files.topName = false)
    (plain : IsPlain ⟨.top, names⟩) (short : ¬ files.IsTooLong (settingsFile ⟨.top, names⟩)) :
    files.holds (settingsFile ⟨.top, names⟩) =
      (files.tree.at? (names ++ [settingsName])).isSome := by
  have free := hasNull_settingsFile named plain
  have walked : files.follow (settingsFile ⟨.top, names⟩) =
      (names ++ [settingsName]).foldlM files.step (.inside []) := by
    rw [follow_eq, if_neg (by rw [free]; decide), if_neg fun long => short ⟨free, .inl long⟩]
    rfl
  have steps (name : String) (member : name ∈ names ++ [settingsName]) : name ≠ ".." :=
    (settingsFile_isPlain plain name member).1
  rw [← follow_tooLong_iff, walked] at short
  rw [holds, walked]
  cases found : (files.tree.at? (names ++ [settingsName])).isSome with
  | true =>
    have below : (files.tree.at? ([] ++ (names ++ [settingsName]))).isSome := found
    rcases walk_of_isSome steps below with done | long
    · rw [done]
      rfl
    · exact absurd long short
  | false =>
    cases done : (names ++ [settingsName]).foldlM files.step (.inside []) with
    | error => rfl
    | ok place =>
      obtain ⟨front, before, isThere⟩ := walk_concat settingsName_plain.1 done
      cases walk_inside (fun name member => (plain name member).1) before
      rw [List.nil_append, found] at isThere
      cases isThere

/-- Nothing of interest lies outside the tree. -/
theorem holds_outside (files : Files) (names : List String) :
    files.holds (settingsFile ⟨.system, names⟩) = false := by
  rw [holds]
  cases reached : files.follow (settingsFile ⟨.system, names⟩) with
  | error => rfl
  | ok place =>
    obtain ⟨front, before, -⟩ := walk_concat settingsName_plain.1 (walk_of_follow reached)
    cases walk_above before

/-! ## Searching -/

theorem nearestAmong_eq (tree : FileTree) {names : List String} {n : Nat} (le : n ≤ names.length) :
    nearestAmong tree names n = (names.take n).inits.reverse.find? fun directory =>
      (tree.at? (directory ++ [settingsName])).isSome := by
  induction n with
  | zero =>
    rw [nearestAmong, List.take_zero]
    cases found : (tree.at? [settingsName]).isSome <;> simp [found]
  | succ n ih =>
    have longest : (names.take (n + 1)).inits.reverse =
        names.take (n + 1) :: (names.take n).inits.reverse := by
      rw [List.take_succ_eq_append_getElem le, List.inits_append]
      simp
    rw [nearestAmong, longest, List.find?_cons, ← ih (Nat.le_of_succ_le le)]
    split
    · next found => rw [found]
    · next found => rw [Bool.eq_false_of_not_eq_true found]

/-- Whether a directory of the tree has a settings file in it. -/
def hasSettings (files : Files) (directory : Path) : Bool :=
  directory.base == .top && (files.tree.at? (directory.steps ++ [settingsName])).isSome

theorem find?_upward (files : Files) (directory : Path) :
    (directory.upward.find? files.hasSettings).map settingsFile =
      if directory.base == .top then files.nearest? directory.steps else none := by
  obtain ⟨base, steps⟩ := directory
  by_cases inner : base = .top
  · subst inner
    have nearest := nearestAmong_eq files.tree (Nat.le_refl steps.length)
    rw [List.take_length] at nearest
    have outer : [⟨.system, []⟩].find? files.hasSettings = none := rfl
    rw [upward, if_pos rfl, List.find?_append, outer, Option.or_none, List.find?_map,
      beq_self_eq_true, if_pos rfl, nearest?, nearest, Option.map_map]
    rfl
  · have outside (above : Path) (member : above ∈ upward ⟨base, steps⟩) :
        ¬ files.hasSettings above = true := by
      rcases mem_upward member with rfl | ⟨more, same⟩
      · simp [hasSettings]
      · obtain rfl : base = above.base := congrArg Path.base same
        simp [hasSettings, inner]
    rw [List.find?_eq_none.2 outside]
    simp [inner]

theorem find_error_iff {fault : DeadEnd} : files.find start = .error fault ↔
    fault = .nullCharacter ∧ (start.map hasNull).getD false = true ∨
      fault = .tooLong ∧ (start.map hasNull).getD false = false ∧
        files.IsTooLong (files.startOf start).settingsFile := by
  rw [← follow_tooLong_iff, find, settingsFile]
  by_cases null : (start.map hasNull).getD false
  · simp [null, eq_comm]
  · rw [if_neg null]
    dsimp only
    split
    · next long => simp [null, long, eq_comm]
    · next short => simpa [null] using fun _ => short

/-- What a search finds is the settings file of the first directory with one, on the way up. -/
theorem find_ok_iff {found : Option Path} : files.find start = .ok found ↔
    ((start.map hasNull).getD false = false ∧
      ¬ files.IsTooLong (files.startOf start).settingsFile) ∧
        found = ((files.startOf start).upward.find? files.hasSettings).map settingsFile := by
  rw [← follow_tooLong_iff, find, settingsFile, find?_upward]
  by_cases null : (start.map hasNull).getD false
  · simp [null]
  · rw [if_neg null]
    dsimp only
    split
    · next long => simp [long]
    · next short =>
      rw [Except.ok.injEq]
      exact ⟨fun same => ⟨⟨Bool.eq_false_of_not_eq_true null, short⟩, same.symm⟩,
        fun whole => whole.2.symm⟩

theorem startOf_isPlain (proper : files.IsProper)
    (free : (start.map hasNull).getD false = false) : (files.startOf start).IsPlain := by
  cases start with
  | none => exact proper.current
  | some text => exact settled_isPlain free

theorem startOf_base (files : Files) (start : Option String) :
    (files.startOf start).base = .top ∨ (files.startOf start).base = .system := by
  cases start with
  | none => exact .inl rfl
  | some text => exact settled_base text

theorem follow_outermost (files : Files) :
    files.follow (settingsFile ⟨.system, []⟩) = .error .missing := by
  have shown : (settingsFile ⟨.system, []⟩).text files.topName = "/" ++ settingsName := by
    rw [text_settingsFile, List.nil_append, String.intercalate_singleton]
    rfl
  have free : hasNull ("/" ++ settingsName) = false := by
    rw [hasNull_append, settingsName_plain.2]
    rfl
  rw [follow_eq, shown, if_neg (Bool.eq_false_iff.1 free), if_neg (by decide)]
  rfl

/-- If the path of a settings file above a directory is too long, so is that in the directory. -/
theorem IsTooLong.of_mem_upward {directory above : Path} (named : hasNull files.topName = false)
    (plain : directory.IsPlain) (member : above ∈ directory.upward)
    (long : files.IsTooLong above.settingsFile) : files.IsTooLong directory.settingsFile := by
  rcases mem_upward member with rfl | ⟨more, rfl⟩
  · rw [← follow_tooLong_iff, follow_outermost] at long
    cases long
  · exact long.below named plain

/-- What is looked up on the way up is what is in the directories. -/
theorem hasSettings_eq_holds {directory above : Path} (named : hasNull files.topName = false)
    (plain : directory.IsPlain) (known : directory.base = .top ∨ directory.base = .system)
    (short : ¬ files.IsTooLong directory.settingsFile) (member : above ∈ directory.upward) :
    files.hasSettings above = files.holds above.settingsFile := by
  have shorter := mt (IsTooLong.of_mem_upward named plain member) short
  rcases mem_upward member with rfl | ⟨more, rfl⟩
  · exact (holds_outside files []).symm
  · obtain ⟨base, names⟩ := above
    dsimp only at known
    have plain : IsPlain ⟨base, names⟩ := fun name inside =>
      plain name (List.mem_append_left _ inside)
    rcases known with rfl | rfl
    · rw [holds_inside named plain shorter]
      rfl
    · rw [holds_outside]
      rfl

/-- A search from a directory above finds the same, if nothing is found on the way to it. -/
theorem find_above (proper : files.IsProper) {above : Option String} {found : Option Path}
    (free : (above.map hasNull).getD false = false)
    (member : files.startOf above ∈ (files.startOf start).upward)
    (between : ∀ directory ∈ (files.startOf start).upward.takeWhile (· != files.startOf above),
      files.hasSettings directory = false)
    (ended : files.find start = .ok found) : files.find above = .ok found := by
  obtain ⟨⟨clean, short⟩, rfl⟩ := find_ok_iff.1 ended
  have plain := startOf_isPlain proper clean
  refine find_ok_iff.2 ⟨⟨free, mt (IsTooLong.of_mem_upward proper.topName plain member) short⟩, ?_⟩
  -- nothing is found in the first part of the way, and the second is the way from above
  rw [← List.takeWhile_append_dropWhile (p := (· != files.startOf above))
    (l := (files.startOf start).upward), List.find?_append, dropWhile_upward member,
    List.find?_eq_none.2 fun directory known => by simp [between directory known], Option.none_or]

/-- A search gives the settings file of the first directory that has one, from the directory that it
begins in upward, and nothing if there is none. It fails only if the path of the settings file in
this first directory is too long to be looked up, or if its text holds the null character. So from a
directory below, the same file is found, unless there is one on the way up. -/
theorem find_nearest (files : Files) (proper : files.IsProper) :
    (∀ start found, files.find start = .ok found →
      found = ((files.startOf start).upward.find? files.hasSettings).map settingsFile ∧
        ∀ directory ∈ (files.startOf start).upward,
          files.hasSettings directory = files.holds directory.settingsFile) ∧
    (∀ start fault, files.find start = .error fault ↔
      fault = .nullCharacter ∧ (start.map hasNull).getD false = true ∨
        fault = .tooLong ∧ (start.map hasNull).getD false = false ∧
          files.IsTooLong (files.startOf start).settingsFile) ∧
    (∀ start above found, (above.map hasNull).getD false = false →
      files.startOf above ∈ (files.startOf start).upward →
      (∀ directory ∈ (files.startOf start).upward.takeWhile (· != files.startOf above),
        files.hasSettings directory = false) →
      files.find start = .ok found → files.find above = .ok found) ∧
    ∀ text place, files.follow (.fromTop text) = .ok place →
      (files.startOf (some text)).StandsFor place := by
  refine ⟨fun start found ended => ?_, fun start fault => find_error_iff,
    fun start above found free member between ended => find_above proper free member between ended,
    fun text place reached => settled_standsFor reached⟩
  obtain ⟨⟨free, short⟩, result⟩ := find_ok_iff.1 ended
  exact ⟨result, fun directory member => hasSettings_eq_holds proper.topName
    (startOf_isPlain proper free) (startOf_base files start) short member⟩

/-- A search that begins two directories below a settings file, at the text of a directory that is
there, and the one from the directory in between. -/
theorem find_nearest_below :
    let tree := FileTree.directory [(settingsName, .file []),
      ("a", .directory [("b", .directory [])])]
    let files : Files := { topName := "top", tree, current := ["a"] }
    files.IsProper ∧
    (files.find (some "a/b/./../b") = .ok (some ⟨.top, [settingsName]⟩) ∧
      files.find none = .ok (some ⟨.top, [settingsName]⟩)) ∧
    (files.follow (.fromTop "a/b/./../b") = .ok (.inside ["a", "b"]) ∧
      (files.startOf (some "a/b/./../b")).StandsFor (.inside ["a", "b"])) := by
  intro tree files
  have top : hasNull "top" = false := rfl
  have proper : files.IsProper := ⟨top, by simp [files, IsPlain, hasNull]⟩
  have place : files.startOf (some "a/b/./../b") = ⟨.top, ["a", "b"]⟩ := rfl
  have search : files.find (some "a/b/./../b") = .ok (some ⟨.top, [settingsName]⟩) := by
    unfold files tree
    rfl
  have reached : files.follow (.fromTop "a/b/./../b") = .ok (.inside ["a", "b"]) := by
    unfold files tree
    rfl
  obtain ⟨-, -, above, settled⟩ := find_nearest files proper
  refine ⟨proper, ⟨search, above _ none _ rfl ?_ ?_ search⟩, reached, settled _ _ reached⟩
  · rw [place]
    exact .tail _ (.head _)
  · rw [place]
    exact List.forall_mem_singleton.2 rfl

end Files

/-! ## Searches that fail -/

namespace FileTree

/-- A directory with one in it, and so on. -/
def chain : List String → FileTree
  | [] => .directory []
  | name :: names => .directory [(name, chain names)]

theorem at?_chain (names : List String) : (chain names).at? names = some (.directory []) := by
  induction names with
  | nil => rfl
  | cons name names ih =>
    rw [chain, at?, List.lookup_cons_self]
    exact ih

theorem mem_of_at?_chain {names path : List String} (found : ((chain names).at? path).isSome)
    {name : String} (member : name ∈ path) : name ∈ names := by
  induction names generalizing path with
  | nil =>
    cases path with
    | nil => cases member
    | cons => cases found
  | cons first names ih =>
    cases path with
    | nil => cases member
    | cons next path =>
      rw [chain, at?, List.lookup_cons] at found
      split at found
      · next inner known =>
        split at known
        · next same =>
          cases known
          rcases List.mem_cons.1 member with rfl | further
          · exact eq_of_beq same ▸ .head _
          · exact .tail _ (ih found further)
        · cases known
      · cases found

end FileTree

namespace Files

open RecordCheck.Path

variable {files : Files}

section

variable {n : Nat}

/-- A name of one letter, so many times. -/
def letters (n : Nat) : String := String.ofList (List.replicate n 'a')

theorem mem_letters {c : Char} (inside : c ∈ (letters n).toList) : c = 'a' := by
  rw [letters, String.toList_ofList] at inside
  exact List.eq_of_mem_replicate inside

theorem size_letters (n : Nat) : (letters n).utf8ByteSize = n := by
  induction n with
  | zero => rfl
  | succ n ih =>
    rw [letters] at ih
    rw [letters, List.replicate_succ, String.ofList_cons, String.utf8ByteSize_append, ih,
      Nat.add_comm]
    rfl

theorem letters_ne {text : String} (differ : text.utf8ByteSize ≠ n) : letters n ≠ text := by
  rintro rfl
  exact differ (size_letters n)

theorem letters_plain (differ : 2 ≠ n) : letters n ≠ ".." ∧ hasNull (letters n) = false := by
  refine ⟨letters_ne differ, ?_⟩
  simpa [hasNull] using fun inside => absurd (mem_letters inside) (by decide)

theorem startOf_letters (files : Files) (long : 2 < n) :
    files.startOf (some (letters n)) = ⟨.top, [letters n]⟩ := by
  have slash : '/' ∉ (letters n).toList := fun inside => absurd (mem_letters inside) (by decide)
  have step : letters n ≠ "" ∧ letters n ≠ "." :=
    ⟨letters_ne (Nat.zero_lt_of_lt long).ne, letters_ne (Nat.lt_of_succ_lt long).ne⟩
  have steps : stepsOf (letters n) = [letters n] := by
    rw [stepsOf, List.splitOn_eq_singleton slash]
    simp [step]
  rw [startOf, settled, steps]
  simp [settle, (letters_plain long.ne).1]

/-- A search from a directory with too long a name fails, whatever is in the tree. -/
theorem find_letters (named : hasNull files.topName = false) (isOpen : files.IsOpen (.inside []))
    (long : maxNameBytes < n) : files.find (some (letters n)) = .error .tooLong := by
  have more : 2 < n := Nat.lt_of_le_of_lt (by decide) long
  have plain := letters_plain more.ne
  refine find_error_iff.2 (.inr ⟨rfl, plain.2, ?_⟩)
  rw [startOf_letters files more]
  refine ⟨hasNull_settingsFile named (List.forall_mem_singleton.2 plain), .inr ⟨[], letters n,
    [settingsName], .inside [], rfl, rfl, isOpen, plain.1, ?_⟩⟩
  rwa [size_letters]

/-- A search from a directory that lies too deep fails, also if it is there. -/
theorem find_deep {m : Nat} (proper : files.IsProper)
    (here : files.current = List.replicate m (letters n))
    (deep : maxBytes < m * (n + 1) + 16) :
    files.find none = .error .tooLong := by
  refine find_error_iff.2 (.inr ⟨rfl, rfl, hasNull_settingsFile proper.topName proper.current,
    .inl (deep.trans_le ?_)⟩)
  rw [size_settingsFile, startOf, here, List.map_replicate, List.sum_replicate_nat, size_letters]
  omega

end

/-- A directory whose name has one letter too many: a search from it fails, though no directory on
the way up has a settings file. So does one from a directory that is there, if it lies deep enough.
-/
theorem find_tooLong_start :
    let files : Files := { topName := "top", tree := .directory [] }
    let names := List.replicate 16 (letters 254)
    let deep : Files := { topName := "top", tree := .chain names, current := names }
    (files.IsProper ∧ (files.startOf (some (letters 256))).upward.find? files.hasSettings = none ∧
      files.find (some (letters 256)) = .error .tooLong) ∧
    (deep.IsProper ∧ deep.tree.at? names = some (.directory []) ∧
      (deep.startOf none).upward.find? deep.hasSettings = none ∧
      deep.find none = .error .tooLong) := by
  intro files names deep
  have top : hasNull "top" = false := rfl
  have proper : deep.IsProper := ⟨top, fun name member => by
    rw [List.eq_of_mem_replicate member]
    exact letters_plain (by decide)⟩
  refine ⟨⟨⟨top, List.forall_mem_nil _⟩, ?_, find_letters top rfl (by decide)⟩,
    proper, FileTree.at?_chain names, List.find?_eq_none.2 fun directory _ found => ?_,
    find_deep proper rfl (by decide)⟩
  · rw [startOf_letters files (by decide)]
    rfl
  · have member : settingsName ∈ names :=
      FileTree.mem_of_at?_chain (Bool.and_eq_true_iff.1 found).2 (by simp)
    exact letters_ne (by decide) (List.eq_of_mem_replicate member).symm

end Files

end RecordCheck
