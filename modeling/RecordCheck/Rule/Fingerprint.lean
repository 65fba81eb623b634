import RecordCheck.Rule.Parts

/-!
# Fingerprints

What can be a key has a fingerprint, and so has a rule whose parts can be keys. The same values have
the same fingerprint; a few values share one without being the same: minus one and minus two, whole
numbers that differ by a multiple of a large prime, text and its bytes, and nothing at all with
zero. Rules are told apart by their parts only, not by their family.

## Main definitions

* `Fingerprint`, `Fingerprint.agree`.
* `Fingerprint.ofValue`, `Fingerprint.ofRule`.
-/
set_option autoImplicit false

namespace RecordCheck

/-- Fingerprints. Those of values that are only the same as themselves are `own`, told apart by
their serial numbers. -/
inductive Fingerprint where
  | number (n : Int)
  | null
  | data (bytes : List UInt8)
  | sequence (members : List Fingerprint)
  | members (all : List Fingerprint)
  | pattern (p : Pattern)
  | validator (serial : Nat)
  | own (serial : Nat)

namespace Fingerprint

/-- The prime by which numbers are reduced. -/
def modulus : Nat := Nat.pow 2 61 - 1

/-- The fingerprint of a number with a given remainder. -/
def reduced (negative : Bool) (rest : Nat) : Fingerprint :=
  let n : Int := if negative then -rest else rest
  .number (if n = -1 then -2 else n)

/-- A double's units are halved this many times, by a factor that undoes doubling. -/
def halved (units : Nat) : Nat → Nat
  | 0 => units % modulus
  | n + 1 => halved (units * Nat.pow 2 60 % modulus) n

def ofFloat : Binary64 → Fingerprint
  | .finite negative units _ => reduced negative (halved (units % modulus) 1074)
  | .infinite negative => .number (if negative then -314159 else 314159)
  | .nan payload => .own payload

/-- A code point as a number of bytes, lowest first. -/
def codeBytes (width code : Nat) : List UInt8 :=
  (List.range width).map fun i => (code / Nat.pow 256 i).toUInt8

/-- Text as bytes, with as many bytes to a character as the greatest one needs: one, two or four. -/
def textBytes (codes : List Nat) : List UInt8 :=
  let greatest := codes.foldl max 0
  let width := if greatest < 0x100 then 1 else if greatest < 0x10000 then 2 else 4
  codes.flatMap (codeBytes width)

def ofBytes (bytes : List UInt8) : Fingerprint := if bytes.isEmpty then .number 0 else .data bytes

mutual

/-- The fingerprint of a value; what cannot be a key has none. -/
def ofValue : Value → Option Fingerprint
  | .null => some .null
  | .bool b => some (.number (if b then 1 else 0))
  | .int n => some (reduced (n < 0) (n.natAbs % modulus))
  | .float x => some (ofFloat x)
  | .str s => some (ofBytes (textBytes (s.toList.map (·.toNat))))
  | .brokenStr codes => some (ofBytes (textBytes codes))
  | .bytes bs => some (ofBytes bs)
  | .items .tuple entries => (ofValues entries).map .sequence
  | .items .frozenset entries => (ofValues entries).map .members
  | .stream serial _ => some (.own serial)
  | _ => none

def ofValues : List Value → Option (List Fingerprint)
  | [] => some []
  | v :: vs => do
    let f ← ofValue v
    let fs ← ofValues vs
    some (f :: fs)

end

mutual

/-- Whether two fingerprints are the same. -/
def agree : Fingerprint → Fingerprint → Bool
  | .number a, .number b => a == b
  | .null, .null => true
  | .data a, .data b => a == b
  | .sequence as, .sequence bs => agreeInOrder as bs
  | .members as, .members bs => as.length == bs.length && allFound as bs
  | .pattern p, .pattern q => p.same q
  | .validator a, .validator b => a == b
  | .own a, .own b => a == b && a != 0
  | _, _ => false

def agreeInOrder : List Fingerprint → List Fingerprint → Bool
  | [], [] => true
  | a :: as, b :: bs => agree a b && agreeInOrder as bs
  | _, _ => false

def allFound : List Fingerprint → List Fingerprint → Bool
  | [], _ => true
  | a :: as, bs => bs.any (fun b => agree a b) && allFound as bs

end

def ofPart : Part → Option Fingerprint
  | .value v => ofValue v
  | .pattern p => some (.pattern p)
  | .zones all => (ofValues all).map .members
  | .validator v => some (.validator v.serial)

mutual

/-- The fingerprint of a rule; a rule with a part that cannot be a key has none. -/
def ofRule : Rule → Option Fingerprint
  | .all _ set => ofRuleSet set
  | rule => (rule.parts.mapM fun part => ofPart part.2).map .sequence

def ofRuleSet : RuleSet → Option Fingerprint
  | .mk rules override => do
    let fs ← ofRules rules
    some (.sequence [.sequence fs, ← ofValue override])

def ofRules : List Rule → Option (List Fingerprint)
  | [] => some []
  | rule :: rules => do
    let f ← ofRule rule
    let fs ← ofRules rules
    some (f :: fs)

end

end Fingerprint

end RecordCheck
