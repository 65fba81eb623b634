import Mathlib.Data.List.Infix
import RecordCheck.Proofs.SettingsFiles

/-!
# Ways through a tree

A way is walked step by step, downward by names and upward by two dots. The text of a directory is
settled without a look at the tree; where there is a way, this gives the place that it leads to.

## Main definitions

* `Path.StandsFor`: the settled paths of places.
* `Path.IsPlain`: paths whose steps are names.

## Main statements

* `Files.walk_of_isSome`, `Files.walk_inside`, `Files.walk_concat`: what names lead to.
* `Files.settled_standsFor`: a text is settled as the place that it leads to, if it leads to one.
* `Path.settled_isPlain`, `Path.settled_base`: what is settled is a plain directory.
-/
set_option autoImplicit false

namespace RecordCheck

/-! ## Trees -/

namespace FileTree

theorem at?_append (tree : FileTree) (front rest : List String) :
    tree.at? (front ++ rest) = (tree.at? front).bind (·.at? rest) := by
  induction front generalizing tree with
  | nil => rw [List.nil_append, at?, Option.bind_some]
  | cons name front ih =>
    cases tree with
    | file => rfl
    | directory members =>
      rw [List.cons_append, at?, at?]
      cases members.lookup name with
      | none => rfl
      | some inner => exact ih inner

/-- What has something below it is a directory. -/
theorem isDirectory_of_isSome {tree : FileTree} {front : List String} {name : String}
    {rest : List String} (found : (tree.at? (front ++ name :: rest)).isSome) :
    ((tree.at? front).map isDirectory).getD false = true := by
  rw [at?_append] at found
  cases above : tree.at? front with
  | none =>
    rw [above] at found
    cases found
  | some inner =>
    rw [above] at found
    cases inner with
    | file => cases found
    | directory => rfl

end FileTree

/-! ## Walking -/

namespace Path

/-- The settled paths of places. -/
inductive StandsFor : Path → Place → Prop
  | inside (names : List String) : StandsFor ⟨.top, names⟩ (.inside names)
  | above : StandsFor ⟨.system, []⟩ .above

end Path

namespace Files

open RecordCheck.Path

variable {files : Files}

section

variable {front names : List String} {name : String} {place : Place}

theorem step_inside (plain : name ≠ "..")
    (found : (files.tree.at? (front ++ [name])).isSome) : files.step (.inside front) name =
      if maxNameBytes < name.utf8ByteSize then .error .tooLong
      else .ok (.inside (front ++ [name])) := by
  simp [step, FileTree.isDirectory_of_isSome found, plain, found]

/-- A step by a name leads to something of that name. -/
theorem step_ok (plain : name ≠ "..") {next : Place} (done : files.step place name = .ok next) :
    ∃ front, place = .inside front ∧ next = .inside (front ++ [name]) ∧
      (files.tree.at? (front ++ [name])).isSome := by
  unfold step at done
  split at done
  · simp only [plain, beq_iff_eq, if_false] at done
    split at done <;> cases done
  · next front =>
    simp only [plain, beq_iff_eq, if_false] at done
    split at done
    · cases done
    split at done
    · cases done
    split at done
    · next found =>
      cases done
      exact ⟨front, rfl, rfl, found⟩
    · cases done

/-- Names that lead to something are walked to the end, unless one is too long. -/
theorem walk_of_isSome (plain : ∀ name ∈ names, name ≠ "..")
    (found : (files.tree.at? (front ++ names)).isSome) :
    names.foldlM files.step (.inside front) = .ok (.inside (front ++ names)) ∨
      names.foldlM files.step (.inside front) = .error .tooLong := by
  induction names generalizing front with
  | nil => exact .inl (by rw [List.append_nil]; rfl)
  | cons name names ih =>
    obtain ⟨first, others⟩ := List.forall_mem_cons.1 plain
    have next : (files.tree.at? (front ++ [name])).isSome := by
      rw [List.append_cons, FileTree.at?_append] at found
      exact Option.isSome_of_isSome_bind found
    rw [List.foldlM_cons, step_inside first next]
    split
    · exact .inr rfl
    · have := ih others (by rwa [← List.append_cons])
      rwa [← List.append_cons] at this

/-- Names are walked downward. -/
theorem walk_inside (plain : ∀ name ∈ names, name ≠ "..")
    (done : names.foldlM files.step (.inside front) = .ok place) :
    place = .inside (front ++ names) := by
  induction names generalizing front with
  | nil =>
    cases done
    rw [List.append_nil]
  | cons name names ih =>
    obtain ⟨first, others⟩ := List.forall_mem_cons.1 plain
    rw [List.foldlM_cons] at done
    cases one : files.step (.inside front) name with
    | error => rw [one] at done; cases done
    | ok next =>
      rw [one] at done
      obtain ⟨_, ⟨⟩, rfl, -⟩ := step_ok first one
      rw [ih others done, List.append_assoc]
      rfl

/-- Above the top there is no way down. -/
theorem walk_above (done : names.foldlM files.step .above = .ok place) : place = .above := by
  induction names with
  | nil =>
    cases done
    rfl
  | cons name names ih =>
    rw [List.foldlM_cons] at done
    cases one : files.step .above name with
    | error => rw [one] at done; cases done
    | ok next =>
      rw [one] at done
      have same : next = .above := by
        unfold step at one
        dsimp only at one
        split at one
        · cases one
          rfl
        · split at one <;> cases one
      exact ih (same ▸ done)

/-- The last of some names leads down from where the others lead. -/
theorem walk_concat (plain : name ≠ "..") {first : Place}
    (done : (names ++ [name]).foldlM files.step first = .ok place) :
    ∃ front, names.foldlM files.step first = .ok (.inside front) ∧
      (files.tree.at? (front ++ [name])).isSome := by
  simp only [List.foldlM_append, List.foldlM_cons, List.foldlM_nil, bind_pure] at done
  cases before : names.foldlM files.step first with
  | error => rw [before] at done; cases done
  | ok last =>
    rw [before] at done
    obtain ⟨front, rfl, -, isThere⟩ := step_ok plain done
    exact ⟨front, rfl, isThere⟩

end

/-! ## Texts of directories -/

/-- Taking back the step before, or leaving the top, leads to the place of what is settled. -/
theorem step_up {directory : Path} {place next : Place} (here : directory.StandsFor place)
    (done : files.step place ".." = .ok next) : (directory.settle "..").StandsFor next := by
  cases here with
  | above =>
    cases done
    exact .above
  | inside names =>
    unfold step at done
    dsimp only at done
    split at done
    · cases done
    · cases done
      cases names with
      | nil => exact .above
      | cons => exact .inside _

theorem settle_standsFor {directory : Path} {name : String} {place next : Place}
    (here : directory.StandsFor place) (done : files.step place name = .ok next) :
    (directory.settle name).StandsFor next := by
  by_cases up : name = ".."
  · subst up
    exact step_up here done
  · obtain ⟨front, rfl, rfl, -⟩ := step_ok up done
    cases here
    simp only [settle, up, beq_iff_eq, if_false]
    exact .inside _

theorem foldl_settle_standsFor {directory : Path} {names : List String} {place last : Place}
    (here : directory.StandsFor place) (done : names.foldlM files.step place = .ok last) :
    (names.foldl settle directory).StandsFor last := by
  induction names generalizing directory place with
  | nil =>
    cases done
    exact here
  | cons name names ih =>
    rw [List.foldlM_cons] at done
    cases one : files.step place name with
    | error => rw [one] at done; cases done
    | ok next =>
      rw [one] at done
      exact ih (settle_standsFor here one) done

/-- What a path leads to is walked to. -/
theorem walk_of_follow {path : Path} {place : Place} (reached : files.follow path = .ok place) :
    path.steps.foldlM files.step (files.origin path) = .ok place := by
  rw [follow_eq] at reached
  split at reached
  · cases reached
  · split at reached
    · cases reached
    · exact reached

/-- A text that leads to a place is settled as this place. -/
theorem settled_standsFor {text : String} {place : Place}
    (reached : files.follow (.fromTop text) = .ok place) : (settled text).StandsFor place :=
  foldl_settle_standsFor (.inside []) (walk_of_follow reached)

end Files

/-! ## Plain directories -/

namespace Path

/-- The steps of a path are names. -/
def IsPlain (path : Path) : Prop := ∀ name ∈ path.steps, name ≠ ".." ∧ hasNull name = false

theorem hasNull_append (s t : String) : hasNull (s ++ t) = (hasNull s || hasNull t) := by
  simp [hasNull]

theorem hasNull_intercalate {names : List String} (free : ∀ name ∈ names, hasNull name = false) :
    hasNull ("/".intercalate names) = false := by
  induction names with
  | nil => rfl
  | cons name names ih =>
    obtain ⟨first, others⟩ := List.forall_mem_cons.1 free
    cases names with
    | nil => rwa [String.intercalate_singleton]
    | cons next names =>
      rw [String.intercalate_cons_cons, hasNull_append, hasNull_append, first, ih others]
      rfl

theorem mem_intercalate {pieces : List (List Char)} {piece : List Char} {c : Char}
    (known : piece ∈ pieces) (inside : c ∈ piece) : c ∈ ['/'].intercalate pieces := by
  induction pieces with
  | nil => cases known
  | cons first pieces ih =>
    cases pieces with
    | nil =>
      obtain rfl := List.mem_singleton.1 known
      rwa [List.intercalate_singleton]
    | cons next pieces =>
      rw [List.intercalate_cons_cons]
      rcases List.mem_cons.1 known with rfl | later
      · exact List.mem_append_left _ (List.mem_append_left _ inside)
      · exact List.mem_append_right _ (ih later)

/-- The characters of the steps of a text are characters of the text. -/
theorem mem_of_mem_stepsOf {text step : String} {c : Char} (h : step ∈ stepsOf text)
    (inside : c ∈ step.toList) : c ∈ text.toList := by
  obtain ⟨piece, known, rfl⟩ := List.mem_map.1 (List.mem_filter.1 h).1
  rw [String.toList_ofList] at inside
  have joined := mem_intercalate known inside
  rwa [List.intercalate_splitOn] at joined

theorem hasNull_of_mem_stepsOf {text step : String} (free : hasNull text = false)
    (h : step ∈ stepsOf text) : hasNull step = false := by
  have absent : '\x00' ∉ text.toList := by simpa [hasNull] using free
  simpa [hasNull] using fun inside => absent (mem_of_mem_stepsOf h inside)

theorem IsPlain.settle {directory : Path} {name : String} (plain : directory.IsPlain)
    (free : hasNull name = false) : (directory.settle name).IsPlain := by
  unfold Path.settle
  split
  · split
    · exact List.forall_mem_nil _
    · exact fun step member => plain step (List.mem_of_mem_dropLast member)
  · next other =>
    refine List.forall_mem_append.2 ⟨plain, List.forall_mem_singleton.2 ⟨?_, free⟩⟩
    simpa using other

theorem settled_isPlain {text : String} (free : hasNull text = false) : (settled text).IsPlain :=
  List.foldlRecOn (motive := IsPlain) _ _ (List.forall_mem_nil _) fun _ plain _ member =>
    plain.settle (hasNull_of_mem_stepsOf free member)

theorem settle_base {directory : Path} (name : String)
    (known : directory.base = .top ∨ directory.base = .system) :
    (directory.settle name).base = .top ∨ (directory.settle name).base = .system := by
  unfold settle
  split
  · split
    · exact .inr rfl
    · exact known
  · exact known

/-- What is settled lies in the tree or outside. -/
theorem settled_base (text : String) :
    (settled text).base = .top ∨ (settled text).base = .system :=
  List.foldlRecOn (motive := fun (path : Path) => path.base = .top ∨ path.base = .system) _ _
    (.inl rfl) fun _ known name _ => settle_base name known

/-! ## Sizes of texts -/

/-- With a separator after each of some texts, they are joined with one more than is needed. -/
theorem size_intercalate {names : List String} (inhabited : names ≠ []) :
    ("/".intercalate names).utf8ByteSize + 1 =
      (names.map fun name => name.utf8ByteSize + 1).sum := by
  induction names with
  | nil => exact absurd rfl inhabited
  | cons name names ih =>
    cases names with
    | nil => simp
    | cons next names =>
      rw [String.intercalate_cons_cons, List.map_cons, List.sum_cons, ← ih (List.cons_ne_nil _ _),
        String.utf8ByteSize_append, String.utf8ByteSize_append]
      rfl

end Path

end RecordCheck
