import RecordCheck.Text.Ranges

/-!
# Blank characters

The characters of the Unicode property that text is trimmed of, and two ways of trimming.
-/
set_option autoImplicit false

namespace RecordCheck.Text

def blankRanges : List (Nat × Nat) :=
  [(0x9, 0xD), (0x1C, 0x20), (0x85, 0x85), (0xA0, 0xA0), (0x1680, 0x1680), (0x2000, 0x200A),
   (0x2028, 0x2029), (0x202F, 0x202F), (0x205F, 0x205F), (0x3000, 0x3000)]

/-- Spaces, line breaks and separators of any script. -/
def isBlank (code : Nat) : Bool := inRanges blankRanges code

/-- The blanks that may stand around a number: of ASCII only the six printing ones. -/
def isNumberBlank (code : Nat) : Bool :=
  if code < 128 then code == 0x20 || (0x09 ≤ code && code ≤ 0x0D) else isBlank code

/-- Removes the characters with a property from both ends. -/
def trim (drop : Nat → Bool) (cs : List Char) : List Char :=
  let front := cs.dropWhile fun c => drop c.toNat
  (front.reverse.dropWhile fun c => drop c.toNat).reverse

/-- Whether nothing but blank characters occur. -/
def isAllBlank (s : String) : Bool := s.toList.all fun c => isBlank c.toNat

end RecordCheck.Text
