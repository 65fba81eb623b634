import Mathlib
import RecordCheck.Pattern.Formats

/-!
# Patterns of known formats read as their parts

The text of each format is read as the parts that are given beside it, so that the patterns of the
formats are those that their texts stand for.
-/
set_option autoImplicit false

namespace RecordCheck.Pattern

set_option maxRecDepth 20000 in
theorem parse_email : parse true {} emailSource.toList = .ok ⟨emailParts, {}, []⟩ := by
  unfold emailSource
  rewrite [String.toList_append]
  cbv

theorem parse_date : parse true {} dateSource.toList = .ok ⟨dateParts, {}, dateWidths⟩ := by cbv

set_option maxRecDepth 20000 in
theorem parse_url : parse true urlFlags urlSource.toList = .ok ⟨urlParts, urlFlags, []⟩ := by
  -- Short texts are taken apart into characters much faster than one long text.
  unfold urlSource
  rewrite [String.toList_append, String.toList_append, String.toList_append, String.toList_append,
    String.toList_append, String.toList_append, String.toList_append]
  cbv

/-- A text that can be read stands for the pattern with the parts that are read. -/
theorem ofSource_of_parse {isText : Bool} {source : List Char} {flags given : PatternFlags}
    {parts : List Node} {widths : List (Nat × Width)}
    (read : parse isText flags source = .ok ⟨parts, given, widths⟩) :
    ofSource isText source flags = .ok ⟨isText, source, given, .ofParts given widths parts⟩ := by
  rw [ofSource, read]

theorem ofSource_email : ofSource true emailSource.toList {} = .ok email :=
  ofSource_of_parse parse_email

theorem ofSource_date : ofSource true dateSource.toList {} = .ok date :=
  ofSource_of_parse parse_date

theorem ofSource_url : ofSource true urlSource.toList urlFlags = .ok url :=
  ofSource_of_parse parse_url

end RecordCheck.Pattern
