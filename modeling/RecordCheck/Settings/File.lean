import RecordCheck.Json.Reader
import RecordCheck.Settings.Form

/-!
# Settings in files

Settings are kept in a file of a fixed name, which belongs to the directory that it lies in and to
all directories below. The nearest file counts. A file that is asked for by its path and does not
exist means the default settings.

## Main definitions

* `FileTree`, `Files`: directories and files, and the directory that a program runs in.
* `Path`: a way to a file, and its text.
* `Files.follow`: where a path leads.
* `Files.find`: the nearest settings file at or above a directory.
* `Files.load`: the settings at a path, or in the nearest file.
-/
set_option autoImplicit false

namespace RecordCheck

/-! ## Files and paths -/

/-- A file with its bytes, or a directory with its members. -/
inductive FileTree where
  | file (data : List UInt8)
  | directory (members : List (String × FileTree))

namespace FileTree

/-- What lies at a sequence of names below a directory. -/
def at? : FileTree → List String → Option FileTree
  | tree, [] => some tree
  | .directory members, name :: names =>
    match members.lookup name with
    | some tree => tree.at? names
    | none => none
  | .file _, _ :: _ => none

def isDirectory : FileTree → Bool
  | .directory _ => true
  | .file _ => false

/-- Puts a file or a directory at a sequence of names; directories on the way are made. -/
def put (tree : FileTree) : List String → FileTree → FileTree
  | [], new =>
    match tree, new with
    | .directory members, .directory [] => .directory members
    | _, new => new
  | name :: names, new =>
    let members := match tree with
      | .directory members => members
      | .file _ => []
    let inner := (members.lookup name).getD (.directory [])
    .directory ((members.filter fun member => member.1 != name) ++ [(name, inner.put names new)])

end FileTree

/-- A tree of files whose top has a name, and the directory in it that a program runs in. Above the
top there are directories that hold nothing of interest. -/
structure Files where
  topName : String
  tree : FileTree
  current : List String := []

/-- Where a path begins: in the current directory, at the top of the tree, or far above it. Exactly
two slashes name another root than one or more than two do, though it is the same place. -/
inductive Path.Base where
  | current | top | system | otherRoot
deriving DecidableEq, Repr

/-- A way to a file. -/
structure Path where
  base : Path.Base
  steps : List String
deriving DecidableEq, Repr

namespace Path

/-- The steps in the text of a path; steps that lead nowhere are left out. -/
def stepsOf (text : String) : List String :=
  ((text.toList.splitOn '/').map String.ofList).filter fun step => step != "" && step != "."

/-- The path that a text is, as seen from the current directory. -/
def ofText (text : String) : Path :=
  let base : Base := match (text.toList.takeWhile (· == '/')).length with
    | 0 => .current
    | 2 => .otherRoot
    | _ => .system
  ⟨base, stepsOf text⟩

/-- The path that a text is, as seen from the top of the tree. -/
def fromTop (text : String) : Path := ⟨.top, stepsOf text⟩

/-- A path with one more step, where `..` takes back the step before it and may lead above the top.
-/
def settle (path : Path) (step : String) : Path :=
  if step == ".." then
    if path.steps.isEmpty then ⟨.system, []⟩ else ⟨path.base, path.steps.dropLast⟩
  else ⟨path.base, path.steps ++ [step]⟩

/-- The directory that a text leads to from the top; it need not exist. -/
def settled (text : String) : Path := (stepsOf text).foldl settle ⟨.top, []⟩

/-- The text of a path. -/
def text (topName : String) (path : Path) : String :=
  let joined := "/".intercalate path.steps
  match path.base with
  | .current => if path.steps.isEmpty then "." else joined
  | .top => if path.steps.isEmpty then topName else topName ++ "/" ++ joined
  | .system => "/" ++ joined
  | .otherRoot => "//" ++ joined

/-- A place in the tree, or above its top. -/
inductive Place where
  | inside (names : List String)
  | above
deriving DecidableEq, Repr

/-- Why a path leads nowhere: nothing is there, it or one of its names is too long to be looked up,
or it holds the null character, which no name can hold. -/
inductive DeadEnd where
  | missing | tooLong | nullCharacter
deriving DecidableEq, Repr

/-- How many bytes a name in a path may have. -/
def maxNameBytes : Nat := 255

/-- How many bytes a path may have. -/
def maxBytes : Nat := 4095

def hasNull (text : String) : Bool := text.toList.contains '\x00'

end Path

namespace Files

open RecordCheck.Path

/-- One step on a way. Only directories lead further. -/
def step (files : Files) (place : Place) (step : String) : Except DeadEnd Place :=
  match place with
  | .above =>
    if step == ".." then .ok .above
    else if maxNameBytes < step.utf8ByteSize then .error .tooLong
    else .error .missing
  | .inside names =>
    if !((files.tree.at? names).map FileTree.isDirectory).getD false then .error .missing
    else if step == ".." then
      .ok (if names.isEmpty then .above else .inside names.dropLast)
    else if maxNameBytes < step.utf8ByteSize then .error .tooLong
    else if (files.tree.at? (names ++ [step])).isSome then .ok (.inside (names ++ [step]))
    else .error .missing

/-- The place that a path leads to, if it leads to a file or a directory. -/
def follow (files : Files) (path : Path) : Except DeadEnd Place :=
  let text := path.text files.topName
  let start : Place := match path.base with
    | .current => .inside files.current
    | .top => .inside []
    | .system | .otherRoot => .above
  if hasNull text then .error .nullCharacter
  else if maxBytes < text.utf8ByteSize then .error .tooLong
  else path.steps.foldlM files.step start

/-- The bytes of the file at a place; a directory has none. -/
def bytes? (files : Files) : Place → Option (List UInt8)
  | .above => none
  | .inside names =>
    match files.tree.at? names with
    | some (.file data) => some data
    | _ => none

/-! ## The nearest settings file -/

/-- The name of settings files. -/
def settingsName : String := ".fieldrules.json"

/-- The nearest directory with a settings file among the first ones of some names, the longest
first. -/
def nearestAmong (tree : FileTree) (names : List String) : Nat → Option (List String)
  | 0 => if (tree.at? [settingsName]).isSome then some [] else none
  | n + 1 =>
    let directory := names.take (n + 1)
    if (tree.at? (directory ++ [settingsName])).isSome then some directory
    else nearestAmong tree names n

/-- The nearest settings file at or above a directory, which need not exist. -/
def nearest? (files : Files) (directory : List String) : Option Path :=
  (nearestAmong files.tree directory directory.length).map fun names =>
    ⟨.top, names ++ [settingsName]⟩

/-- The directory that a search begins in: the one that a text leads to from the top, or the current
directory where there is no text. -/
def startOf (files : Files) : Option String → Path
  | none => ⟨.top, files.current⟩
  | some text => settled text

/-- The nearest settings file at or above the directory that a search begins in. The directory must
have a name that can be looked up. -/
def find (files : Files) (start : Option String) : Except DeadEnd (Option Path) :=
  if (start.map hasNull).getD false then .error .nullCharacter
  else
    let directory := files.startOf start
    match files.follow ⟨directory.base, directory.steps ++ [settingsName]⟩ with
    | .error .tooLong => .error .tooLong
    | _ => .ok (if directory.base == .top then files.nearest? directory.steps else none)

/-! ## Loading -/

/-- Why the content of a file that can be read as JSON or not at all is refused. -/
inductive LoadCause where
  | isDirectory | notUtf8 | tooManyDigits | tooDeep
  | settings (e : SettingsError)

/-- Why settings cannot be loaded from a path: the path cannot be looked up, the file is no JSON, or
there is another cause. -/
inductive LoadError where
  | unusable (fault : DeadEnd)
  | malformed (path message : String)
  | failed (path : String) (cause : LoadCause)

def LoadError.message? : LoadError → Option String
  | .unusable _ => none
  | .malformed path message => some ("Invalid JSON in config file " ++ path ++ ": " ++ message)
  | .failed path _ => some ("Failed to load config from " ++ path)

/-- Text with every kind of line end written as one character. -/
def plainLines : List Char → List Char
  | '\r' :: '\n' :: rest => '\n' :: plainLines rest
  | '\r' :: rest => '\n' :: plainLines rest
  | c :: rest => c :: plainLines rest
  | [] => []

/-- The settings in the bytes of a file. -/
def settingsIn (path : String) (data : List UInt8) : Except LoadError Settings :=
  match Text.Utf8.decode? data with
  | none => .error (.failed path .notUtf8)
  | some cs =>
    let text := plainLines cs
    match Json.read text with
    | .error .tooManyDigits => .error (.failed path .tooManyDigits)
    | .error .tooDeep => .error (.failed path .tooDeep)
    | .error fault => .error (.malformed path (fault.message text))
    | .ok v => (Settings.ofValue v).mapError fun e => .failed path (.settings e)

/-- The settings at a path; the default ones where there is nothing. -/
def loadAt (files : Files) (path : Path) : Except LoadError Settings :=
  let shown := path.text files.topName
  match files.follow path with
  | .error .tooLong => .error (.unusable .tooLong)
  | .error _ => .ok {}
  | .ok place =>
    match files.bytes? place with
    | some data => settingsIn shown data
    | none => .error (.failed shown .isDirectory)

/-- The settings at a path, or those in the nearest file where no path is given. -/
def load (files : Files) : Option Path → Except LoadError Settings
  | some path => files.loadAt path
  | none =>
    match files.find none with
    | .ok (some path) => files.loadAt path
    | .ok none => .ok {}
    | .error fault => .error (.unusable fault)

end Files

end RecordCheck
