import RecordCheck.Value.Basic

/-!
# Equality of values

`Value.same` compares what values stand for: numbers by their exact value whatever their kind,
mappings without regard to order. NaN is the same as nothing, but what holds a NaN is the same as
what holds that very NaN (`Value.alike`). `Value.strictlySame` also wants the kinds to agree.
Mappings look their keys up by `Value.same`, so that NaN is never found.
-/
set_option autoImplicit false

namespace RecordCheck

namespace Value

/-- Whether two values are one NaN. -/
def isOneNaN : Value → Value → Bool
  | .float (.nan p), .float (.nan q) => p == q && p != 0
  | _, _ => false

mutual

/-- Equality of what two values stand for. -/
def same : Value → Value → Bool
  | .null, .null => true
  | .str s, .str t => s == t
  | .brokenStr s, .brokenStr t => s == t
  | .stream m _, .stream n _ => m == n && m != 0
  | .bytes a, .bytes b | .bytes a, .bytearray b => a == b
  | .bytearray a, .bytes b | .bytearray a, .bytearray b => a == b
  | .items .list xs, .items .list ys => sameSequence xs ys
  | .items .tuple xs, .items .tuple ys => sameSequence xs ys
  | .items .set xs, .items .set ys => xs.length == ys.length && sameMembers xs ys
  | .items .set xs, .items .frozenset ys => xs.length == ys.length && sameMembers xs ys
  | .items .frozenset xs, .items .set ys => xs.length == ys.length && sameMembers xs ys
  | .items .frozenset xs, .items .frozenset ys => xs.length == ys.length && sameMembers xs ys
  | .object as, .object bs => as.length == bs.length && sameAttributes as bs
  | .dict es, .dict fs => es.length == fs.length && sameEntries es fs
  | .bool a, w => sameNumber (.int (if a then 1 else 0)) w
  | .int a, w => sameNumber (.int a) w
  | .float a, w => sameNumber (.float a) w
  | _, _ => false

/-- Whether a value stands for a given number. -/
def sameNumber (a : Number) (w : Value) : Bool :=
  match w.number? with
  | some b => a.same b
  | none => false

/-- Sequences agree entry by entry. -/
def sameSequence : List Value → List Value → Bool
  | [], [] => true
  | x :: xs, y :: ys => (isOneNaN x y || x.same y) && sameSequence xs ys
  | _, _ => false

/-- Every member of the first list is found in the second. -/
def sameMembers : List Value → List Value → Bool
  | [], _ => true
  | x :: xs, ys => ys.any (fun y => isOneNaN x y || x.same y) && sameMembers xs ys

/-- Every attribute of the first list has an equal one in the second. -/
def sameAttributes : List (String × Value) → List (String × Value) → Bool
  | [], _ => true
  | (name, x) :: rest, bs =>
    bs.any (fun b => name == b.1 && (isOneNaN x b.2 || x.same b.2)) && sameAttributes rest bs

/-- Every entry of the first mapping has an equal one in the second. -/
def sameEntries : List (Value × Value) → List (Value × Value) → Bool
  | [], _ => true
  | (k, x) :: rest, fs =>
    fs.any (fun f => (isOneNaN k f.1 || k.same f.1) && (isOneNaN x f.2 || x.same f.2))
      && sameEntries rest fs

end

/-- Equality as parts of something: one NaN, or equal in what they stand for. -/
def alike (v w : Value) : Bool := isOneNaN v w || v.same w

/-- Equality of kind and of what the values stand for. -/
def strictlySame (v w : Value) : Bool := v.kind == w.kind && v.same w

end Value

/-! ## Lists of entries with keys -/

namespace Keyed

variable {α : Type}

/-- The entry with a key. -/
def find? (key : Value) : List (Value × α) → Option α
  | [] => none
  | (k, a) :: rest => if k.same key then some a else find? key rest

/-- Replaces the entry with a key, which keeps its place and its key, or adds one at the end. -/
def put (key : Value) (a : α) : List (Value × α) → List (Value × α)
  | [] => [(key, a)]
  | (k, b) :: rest => if k.same key then (k, a) :: rest else (k, b) :: put key a rest

/-- Puts entries in one after the other. -/
def putAll (base : List (Value × α)) (entries : List (Value × α)) : List (Value × α) :=
  entries.foldl (fun all entry => put entry.1 entry.2 all) base

end Keyed

namespace Value

/-- A mapping from entries in which a later entry replaces an earlier one with the same key. -/
def ofEntries (entries : List (Value × Value)) : Value := .dict (Keyed.putAll [] entries)

/-- A mapping from entries, if their keys can be keys. -/
def ofEntries? (entries : List (Value × Value)) : Option Value :=
  if areHashable (entries.map (·.1)) then some (ofEntries entries) else none

/-- Values without those that are the same as an earlier one. -/
def distinct (vs : List Value) : List Value :=
  vs.foldl (fun kept v => if kept.any fun w => w.same v then kept else kept ++ [v]) []

/-- A collection of distinct members, if they can be keys. -/
def ofMembers? (container : Container) (members : List Value) : Option Value :=
  if areHashable members then some (.items container (distinct members)) else none

end Value

end RecordCheck
