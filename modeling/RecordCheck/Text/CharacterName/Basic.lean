/-!
# Runs of names

Names of characters are kept in runs: the code point of the first one, the words that the names
begin with, and what follows them in each name, lines of it with semicolons between. A code point
without a name leaves its place empty.
-/
set_option autoImplicit false

namespace RecordCheck.Text

/-- Names of characters that follow each other. -/
structure NameRun where
  first : Nat
  stem : String
  endings : List String

/-- The code point of a name in a run. -/
def NameRun.find? (run : NameRun) (name : String) : Option Nat :=
  if run.stem.isPrefixOf name && run.stem.length < name.length then
    ((run.endings.flatMap fun line => (line.splitOn ";").map (run.stem ++ ·)).idxOf? name).map
      (run.first + ·)
  else none

end RecordCheck.Text
