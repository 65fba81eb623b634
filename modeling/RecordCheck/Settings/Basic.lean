import RecordCheck.Value.Basic

/-!
# Settings

What a registry can be set up with: the name that the entries of lists are checked under, whether
rules may be replaced, and aliases to begin with.
-/
set_option autoImplicit false

namespace RecordCheck

/-- A named description of rules, and the code to report in place of their own. -/
structure AliasSettings where
  name : String
  rules : Value
  error : Option String := none
deriving Repr

/-- The settings of a registry. -/
structure Settings where
  listEntryField : String := "entry"
  allowOverrides : Bool := true
  aliases : List AliasSettings := []
deriving Repr

end RecordCheck
