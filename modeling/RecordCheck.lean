import RecordCheck.Settings.File
import RecordCheck.Session
import RecordCheck.Rule.Fingerprint
import RecordCheck.Settings.Form
import RecordCheck.Recipe
import RecordCheck.Parsing
import RecordCheck.Description
import RecordCheck.Builtin
import RecordCheck.Validation
import RecordCheck.Proofs.Formats
import RecordCheck.Proofs.Slots
import RecordCheck.Proofs.Grammar
import RecordCheck.Proofs.Codes
import RecordCheck.Proofs.Asking
import RecordCheck.Proofs.Alias
import RecordCheck.Proofs.Rereading
import RecordCheck.Proofs.Lasting
import RecordCheck.Proofs.Coupling
import RecordCheck.Proofs.Totality
import RecordCheck.Proofs.Calls
import RecordCheck.Proofs.Registry
import RecordCheck.Proofs.Fit
import RecordCheck.Proofs.Writable
import RecordCheck.Proofs.Reading
import RecordCheck.Proofs.Piece
import RecordCheck.Proofs.Positions
import RecordCheck.Proofs.Outcome
import RecordCheck.Proofs.Keyed
import RecordCheck.Pattern.Basic
import RecordCheck.Timezone.Ids
import RecordCheck.Rule.Blank
import RecordCheck.Rule.Shape
import RecordCheck.Rule.Comparison
import RecordCheck.Rule.Length
import RecordCheck.Pattern.Matcher
import RecordCheck.Pattern.Parser
import RecordCheck.Error
import RecordCheck.Json.Printer
import RecordCheck.Json.Reader
import RecordCheck.Value.Equality
import RecordCheck.Value.Printing
import RecordCheck.Text.Encoding
import RecordCheck.Number.Reading
import RecordCheck.Number.Shortest
import RecordCheck.Text.Blank
import RecordCheck.Text.Digit
import RecordCheck.Text.Printable
import RecordCheck.Text.Word
import RecordCheck.Text.Identifier
import RecordCheck.Text.Case
import RecordCheck.Proofs.Failing
import RecordCheck.Proofs.Absent
import RecordCheck.Proofs.Agreement
import RecordCheck.Proofs.Drafts
import RecordCheck.Proofs.Unvalidatable
import RecordCheck.Proofs.Endless
import RecordCheck.Proofs.Concatenation
import RecordCheck.Proofs.Footprint
import RecordCheck.Proofs.Containers
import RecordCheck.Proofs.Bindings
import RecordCheck.Proofs.EntryField
import RecordCheck.Proofs.Nesting
import RecordCheck.Proofs.QuotedText
import RecordCheck.Proofs.ReportText
import RecordCheck.Proofs.Entries
import RecordCheck.Proofs.Alike
import RecordCheck.Proofs.EqualLeaves
import RecordCheck.Proofs.Interchange
import RecordCheck.Proofs.Switching
import RecordCheck.Proofs.Variants
import RecordCheck.Proofs.Settings
import RecordCheck.Proofs.Fusion
import RecordCheck.Proofs.Interleaving
import RecordCheck.Proofs.Numbering
import RecordCheck.Proofs.Declarations
import RecordCheck.Proofs.Registering
import RecordCheck.Proofs.AliasOrder
import RecordCheck.Proofs.IntegerText
import RecordCheck.Proofs.IntegerRules
import RecordCheck.Proofs.BoundsOnText
import RecordCheck.Proofs.Utf8
import RecordCheck.Proofs.LengthRules
import RecordCheck.Proofs.StrictEquality
import RecordCheck.Proofs.ExactBounds
import RecordCheck.Proofs.Rounding
import RecordCheck.Proofs.SeventeenDigits
import RecordCheck.Proofs.FloatText
import RecordCheck.Proofs.DecimalRules
import RecordCheck.Proofs.MatchRules
import RecordCheck.Proofs.Shapes
import RecordCheck.Proofs.Asserting
import RecordCheck.Proofs.LineEnds
import RecordCheck.Proofs.SettingsFiles
import RecordCheck.Proofs.FlagLetters
import RecordCheck.Proofs.NearestSettings
