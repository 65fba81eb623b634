import RecordCheck.Text.Encoding.PreparedName
import RecordCheck.Text.Encoding.Punycode

/-!
# Names of domains

An encoding of names with labels between points. A label beyond ASCII is written with the mark
`xn--` and the insertions of `Punycode`; it has to be the one way of writing a prepared name.

## Main definitions

* `DomainName.count`: the number of characters.
-/
set_option autoImplicit false

namespace RecordCheck.Text.Encoding.DomainName

/-- The mark `xn--` of an encoded label. -/
def mark : List Nat := [0x78, 0x6E, 0x2D, 0x2D]

def lowerAscii (code : Nat) : Nat := if 0x41 ≤ code && code ≤ 0x5A then code + 0x20 else code

/-- Whether a label that has been decoded would be encoded as it was: it is beyond ASCII, has no
mark itself, is short enough, and is prepared but for capital ASCII letters, and there is no hyphen
in front of the insertions unless ASCII characters are. -/
def isFaithful (label decoded : List Nat) : Bool :=
  let name := decoded.map lowerAscii
  name.any (0x80 ≤ ·) && label.length < 64 && !mark.isPrefixOf name && isPrepared name
    && (Punycode.parts (label.drop mark.length)).1 != some []

/-- The number of characters of a label. -/
def countLabel (label : List Nat) : Except Flaw Nat :=
  if mark.isPrefixOf label then do
    let decoded ← Punycode.decode (label.drop mark.length)
    if isFaithful label decoded then return decoded.length else throw .unsuitable
  else if label.all (· < 0x80) then .ok label.length
  else .error .malformed

/-- The labels between points. -/
def labels : List Nat → List (List Nat)
  | [] => [[]]
  | 0x2E :: rest => [] :: labels rest
  | byte :: rest =>
    match labels rest with
    | label :: others => (byte :: label) :: others
    | [] => [[byte]]

/-- Whether bytes hold the mark of an encoded label, at any place. -/
def hasMark : List Nat → Bool
  | [] => false
  | byte :: rest => mark.isPrefixOf (byte :: rest) || hasMark rest

/-- The number of characters that bytes stand for. The points count, too. -/
def count (bytes : List UInt8) : Except Flaw Nat := do
  let bytes := bytes.map (·.toNat)
  if !hasMark bytes && bytes.all (· < 0x80) then return bytes.length
  let labels := labels bytes
  let lengths ← labels.mapM countLabel
  return lengths.foldl (· + ·) (labels.length - 1)

end RecordCheck.Text.Encoding.DomainName
