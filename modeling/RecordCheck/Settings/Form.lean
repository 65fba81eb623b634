import RecordCheck.Error
import RecordCheck.Settings.Basic
import RecordCheck.Text.Blank
import RecordCheck.Text.Case
import RecordCheck.Text.Utf8
import RecordCheck.Value.Equality

/-!
# Settings given as values

Settings are read from a mapping. Everything that is wrong with it is found out at once: first what
is wrong with the members that are known, in their own order, then the members that are not known,
in the order in which they are given.

## Main definitions

* `Issue`: what is wrong, and where.
* `Settings.ofValue`, `AliasSettings.ofValue`: the settings in a mapping, or the issues with it.
-/
set_option autoImplicit false

namespace RecordCheck

/-- What can be wrong with a member of the settings. -/
inductive IssueKind where
  | missing | unknownMember | keyShape
  | notText | notUtf8
  | notTruth | unclearTruth
  | notList | notAlias
  | noEntryField | blankAliasName | noAliasRules
deriving DecidableEq, Repr

namespace IssueKind

/-- The short name of an issue. -/
def name : IssueKind → String
  | missing => "missing"
  | unknownMember => "extra_forbidden"
  | keyShape => "invalid_key"
  | notText => "string_type"
  | notUtf8 => "string_unicode"
  | notTruth => "bool_type"
  | unclearTruth => "bool_parsing"
  | notList => "list_type"
  | notAlias => "model_type"
  | noEntryField | blankAliasName | noAliasRules => "value_error"

def message : IssueKind → String
  | missing => "Field required"
  | unknownMember => "Extra inputs are not permitted"
  | keyShape => "Keys should be strings"
  | notText => "Input should be a valid string"
  | notUtf8 => "Input should be a valid string, unable to parse raw data as a unicode string"
  | notTruth => "Input should be a valid boolean"
  | unclearTruth => "Input should be a valid boolean, unable to interpret input"
  | notList => "Input should be a valid list"
  | notAlias => "Input should be a valid dictionary or instance of AliasConfig"
  | noEntryField => "Value error, list_entry_field must not be empty"
  | blankAliasName => "Value error, alias name must not be blank"
  | noAliasRules => "Value error, alias rules must not be empty"

end IssueKind

/-- A step into the settings: a member, or an entry of a list. -/
inductive Step where
  | member (name : String)
  | entry (index : Int)
deriving DecidableEq, Repr

/-- What is wrong, and the way to the place where it is. -/
structure Issue where
  kind : IssueKind
  place : List Step
deriving DecidableEq, Repr

/-- An issue seen from further outside. -/
def Issue.under (step : Step) (issue : Issue) : Issue := { issue with place := step :: issue.place }

/-- Why a value holds no settings: it is no mapping from names, or there are issues with it. -/
inductive SettingsError where
  | shape
  | issues (all : List Issue)
deriving DecidableEq, Repr

namespace Settings

/-! ## Members -/

/-- Code points as text, with the replacement character in the place of each surrogate. -/
def mended (codes : List Nat) : String :=
  String.ofList (codes.map fun code => if code.isValidChar then Char.ofNat code else '\uFFFD')

/-- Text, or bytes that are read as text. -/
def textIn : Value → Except IssueKind String
  | .str s => .ok s
  | .brokenStr codes => .ok (mended codes)
  | .bytes data | .bytearray data =>
    match Text.Utf8.decode? data with
    | some cs => .ok (String.ofList cs)
    | none => .error .notUtf8
  | _ => .error .notText

def yesWords : List String := ["1", "on", "t", "true", "y", "yes"]

def noWords : List String := ["0", "off", "f", "false", "n", "no"]

/-- The truth value that a word stands for, whatever its case. -/
def truthOfWord (word : String) : Except IssueKind Bool :=
  let small := String.ofList (word.toList.map fun c => Char.ofNat (Text.asciiLower c.toNat))
  if yesWords.contains small then .ok true
  else if noWords.contains small then .ok false
  else .error .unclearTruth

/-- Zero and one as truth values. -/
def truthOfWhole (n : Int) : Except IssueKind Bool :=
  if n = 1 then .ok true else if n = 0 then .ok false else .error .unclearTruth

/-- Whole numbers of the machine are below this, or are its negative. -/
def machineLimit : Int := 0x8000000000000000

/-- A truth value, a word for one, or zero or one. -/
def truthIn : Value → Except IssueKind Bool
  | .bool b => .ok b
  | .int n => if -machineLimit ≤ n ∧ n < machineLimit then truthOfWhole n else .error .notTruth
  | .float x =>
    match x.truncate? with
    | some n =>
      if (Number.int n).same (.float x) && decide (-machineLimit < n ∧ n < machineLimit) then truthOfWhole n
      else .error .notTruth
    | none => .error .notTruth
  | .str s => truthOfWord s
  | .brokenStr _ => .error .notUtf8
  | .bytes data =>
    match Text.Utf8.decode? data with
    | some cs => truthOfWord (String.ofList cs)
    | none => .error .unclearTruth
  | _ => .error .notTruth

def entryFieldIn (v : Value) : Except IssueKind String := do
  let s ← textIn v
  if s.isEmpty then throw .noEntryField else return s

def aliasNameIn (v : Value) : Except IssueKind String := do
  let s ← textIn v
  if Text.isAllBlank s then throw .blankAliasName else return s

def aliasRulesIn (v : Value) : Except IssueKind Value :=
  match v with
  | .null | .list [] | .dict [] => .error .noAliasRules
  | .str s => if s.isEmpty then .error .noAliasRules else .ok v
  | _ => .ok v

def aliasErrorIn : Value → Except IssueKind (Option String)
  | .null => .ok none
  | v => (textIn v).map some

/-! ## Mappings -/

/-- What has been read, or the issues that have come up. -/
abbrev Checked (α : Type) := Except (List Issue) α

/-- Both results, or the issues of both. -/
def both {α β : Type} (a : Checked α) (b : Checked β) : Checked (α × β) :=
  match a, b with
  | .ok x, .ok y => .ok (x, y)
  | .ok _, .error issues => .error issues
  | .error issues, .ok _ => .error issues
  | .error issues, .error more => .error (issues ++ more)

/-- All results, or the issues of all. -/
def collect {α : Type} : List (Checked α) → Checked (List α)
  | [] => .ok []
  | a :: rest => (both a (collect rest)).map fun (x, xs) => x :: xs

/-- Reads the member that has the first of some names that is given. -/
def member {α : Type} (entries : List (Value × Value)) (names : List String) (absent : Checked α)
    (read : String → Value → Checked α) : Checked α :=
  match names.findSome? fun name => (Keyed.find? (.str name) entries).map fun v => (name, v) with
  | some (name, v) => read name v
  | none => absent

/-- A reader of a member whose issues concern the whole of it. -/
def plain {α : Type} (read : Value → Except IssueKind α) (name : String) (v : Value) : Checked α :=
  (read v).mapError fun kind => [⟨kind, [.member name]⟩]

/-- The step to the member with a key. A key that is a whole number, or a truth value as one, counts
as an index while it fits into 64 bits. -/
def stepTo : Value → Step
  | .str name => .member name
  | .bool b => .entry (if b then 1 else 0)
  | key =>
    let shown := key.quoted?.getD ("<unprintable " ++ key.kind.name ++ " object>")
    match key with
    | .int n => if -machineLimit ≤ n ∧ n < machineLimit then .entry n else .member shown
    | _ => .member shown

/-- The issues with members beyond those of some names; of each group only the first name that is
given is known. -/
def beyond (entries : List (Value × Value)) (groups : List (List String)) : Checked Unit :=
  let known := groups.filterMap fun names =>
    names.find? fun name => (Keyed.find? (.str name) entries).isSome
  let issueOf (entry : Value × Value) : Option Issue :=
    match entry.1 with
    | .str name => if known.contains name then none else some ⟨.unknownMember, [.member name]⟩
    | key => some ⟨.keyShape, [stepTo key]⟩
  match entries.filterMap issueOf with
  | [] => .ok ()
  | issues => .error issues

/-- Whether a value is text that surrogates break. -/
def isBroken : Value → Bool
  | .brokenStr _ => true
  | _ => false

/-- What has been read from entries. With a key that is broken text nothing else counts. -/
def legible {α : Type} (entries : List (Value × Value)) (checked : Checked α) : Checked α :=
  if entries.any fun entry => isBroken entry.1 then .error [⟨.notUtf8, []⟩] else checked

/-- A member that must be given. -/
def required {α : Type} (name : String) : Checked α := .error [⟨.missing, [.member name]⟩]

/-- The alias in the entries of a mapping. -/
def aliasIn (entries : List (Value × Value)) : Checked AliasSettings :=
  let name := member entries ["name"] (required "name") (plain aliasNameIn)
  let rules := member entries ["rules"] (required "rules") (plain aliasRulesIn)
  let error := member entries ["error"] (.ok none) (plain aliasErrorIn)
  let rest := beyond entries [["name"], ["rules"], ["error"]]
  (legible entries (both name (both rules (both error rest)))).map
    fun (name, rules, error, _) => ⟨name, rules, error⟩

/-- The alias in an entry of a list. -/
def aliasAt (index : Nat) (v : Value) : Checked AliasSettings :=
  let read := match v with
    | .dict entries => aliasIn entries
    | _ => .error [⟨.notAlias, []⟩]
  read.mapError fun issues => issues.map (Issue.under (.entry index))

/-- The aliases in a list. -/
def aliasesIn (name : String) (v : Value) : Checked (List AliasSettings) :=
  let read := match v with
    | .items _ entries | .stream _ entries =>
      collect (entries.zipIdx.map fun (w, index) => aliasAt index w)
    | _ => .error [⟨.notList, []⟩]
  read.mapError fun issues => issues.map (Issue.under (.member name))

def entryFieldNames : List String := ["listEntryField", "list_entry_field"]

def allowOverridesNames : List String := ["allowOverrides", "allow_overrides"]

/-- The settings in the entries of a mapping. -/
def ofEntries (entries : List (Value × Value)) : Checked Settings :=
  let entryField := member entries entryFieldNames (.ok "entry") (plain entryFieldIn)
  let allowOverrides := member entries allowOverridesNames (.ok true) (plain truthIn)
  let aliases := member entries ["aliases"] (.ok []) aliasesIn
  let rest := beyond entries [entryFieldNames, allowOverridesNames, ["aliases"]]
  (legible entries (both entryField (both allowOverrides (both aliases rest)))).map
    fun (entryField, allowOverrides, aliases, _) => ⟨entryField, allowOverrides, aliases⟩

/-- Reads a mapping from names. -/
def ofMapping {α : Type} (read : List (Value × Value) → Checked α) (v : Value) :
    Except SettingsError α :=
  match v with
  | .dict entries =>
    if entries.all fun entry => entry.1.isStr then (read entries).mapError .issues
    else .error .shape
  | _ => .error .shape

/-- The settings in a value. -/
def ofValue (v : Value) : Except SettingsError Settings := ofMapping ofEntries v

end Settings

/-- The alias in a value. -/
def AliasSettings.ofValue (v : Value) : Except SettingsError AliasSettings :=
  Settings.ofMapping Settings.aliasIn v

/-- The error of a value without settings. -/
def SettingsError.toError : SettingsError → Error
  | .shape => .wrongType
  | .issues _ => .fault .invalidSettings

end RecordCheck
