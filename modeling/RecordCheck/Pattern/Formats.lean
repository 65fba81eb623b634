import RecordCheck.Pattern.Basic

/-!
# Patterns of known formats

E-mail addresses, calendar dates and web addresses. Each pattern is given by its text and by its
parts.

## Main definitions

* `Pattern.email`, `Pattern.date`, `Pattern.url`.
-/
set_option autoImplicit false

namespace RecordCheck.Pattern

/-! ## Parts -/

namespace Node

def one (c : Char) : Node := .char false c.toNat

def oneOf (items : List SetItem) : Node := .set false items

def times (least most : Nat) (body : List Node) : Node := .repeat least (some most) .greedy body

def maybe (body : List Node) : Node := times 0 1 body

def star (body : List Node) : Node := .repeat 0 none .greedy body

def plus (body : List Node) : Node := .repeat 1 none .greedy body

/-- Parts that are remembered under a number. -/
def kept (number : Nat) (body : List Node) : Node := .group (some number) {} {} body

end Node

open Node

def SetItem.between (first last : Char) : SetItem := .range first.toNat last.toNat

/-- The members of a set that stand for themselves. -/
def SetItem.each (cs : List Char) : List SetItem := cs.map fun c => .single c.toNat

/-- ASCII letters and digits. -/
def alphanumerics : List SetItem := [.between 'a' 'z', .between 'A' 'Z', .between '0' '9']

def digit : Node := oneOf [.between '0' '9']

def notBlank : Node := oneOf [.category .blank true]

/-! ## E-mail addresses -/

def emailSource : String :=
  "^[a-zA-Z0-9.!#$%&'*+/=?^_`\x7b|\x7d~-]+@[a-zA-Z0-9](?:[a-zA-Z0-9-]\x7b0,61\x7d[a-zA-Z0-9])?" ++
    "(?:\\.[a-zA-Z0-9](?:[a-zA-Z0-9-]\x7b0,61\x7d[a-zA-Z0-9])?)*$"

/-- The characters before the at sign, apart from letters and digits. -/
def emailMarks : List Char :=
  ['.', '!', '#', '$', '%', '&', '\'', '*', '+', '/', '=', '?', '^', '_', '`', '\x7b', '|', '\x7d',
    '~', '-']

/-- A label of a domain: one to sixty-three characters, no hyphen at either end. -/
def emailLabel : List Node :=
  [oneOf alphanumerics,
    maybe [times 0 61 [oneOf (alphanumerics ++ SetItem.each ['-'])], oneOf alphanumerics]]

def emailParts : List Node :=
  [.anchor .lineStart, plus [oneOf (alphanumerics ++ SetItem.each emailMarks)], one '@'] ++
    emailLabel ++ [star (one '.' :: emailLabel), .anchor .lineEnd]

def email : Pattern := ⟨true, emailSource.toList, {}, .ofParts {} [] emailParts⟩

/-! ## Dates -/

def dateSource : String :=
  "^([0-9]\x7b4\x7d)-(0[1-9]|1[0-2])-(0[1-9]|[1-2][0-9]|3[0-1])$"

def dateParts : List Node :=
  [.anchor .lineStart, kept 1 [times 4 4 [digit]], one '-',
    kept 2 [.choice [[one '0', oneOf [.between '1' '9']], [one '1', oneOf [.between '0' '2']]]],
    one '-',
    kept 3 [.choice [[one '0', oneOf [.between '1' '9']], [oneOf [.between '1' '2'], digit],
      [one '3', oneOf [.between '0' '1']]]],
    .anchor .lineEnd]

/-- The widths of a year, a month and a day, the last one first. -/
def dateWidths : List (Nat × Width) := [(3, .exactly 2), (2, .exactly 2), (1, .exactly 4)]

def date : Pattern := ⟨true, dateSource.toList, {}, .ofParts {} dateWidths dateParts⟩

/-! ## Web addresses -/

def urlSource : String :=
  "^(?:https?://)(?:\\S+(?::\\S*)?@)?" ++
    "(?:(?:[1-9][0-9]?|1[0-9][0-9]|2[01][0-9]|22[0-3])" ++
    "(?:\\.(?:1?[0-9]\x7b1,2\x7d|2[0-4][0-9]|25[0-5]))\x7b2\x7d" ++
    "(?:\\.(?:[1-9][0-9]?|1[0-9][0-9]|2[0-4][0-9]|25[0-4]))" ++
    "|(?:(?:[a-z\\u00a1-\\uffff0-9]-*)*[a-z\\u00a1-\\uffff0-9]+)" ++
    "(?:\\.(?:[a-z\\u00a1-\\uffff0-9]-*)*[a-z\\u00a1-\\uffff0-9]+)*" ++
    "(?:\\.(?:[a-z\\u00a1-\\uffff]\x7b2,\x7d))\\.?)" ++
    "(?::[0-9]\x7b2,5\x7d)?(?:[/?#]\\S*)?$"

def urlFlags : PatternFlags := { ignoreCase := true }

/-- A digit between two given ones. -/
def digitBetween (first last : Char) : Node := oneOf [.between first last]

/-- The letters and digits of host names. -/
def hostChar : Node := oneOf [.between 'a' 'z', .range 0xA1 0xFFFF, .between '0' '9']

/-- Runs of host characters with hyphens between them, not at the end. -/
def hostRuns : List Node := [star [hostChar, star [one '-']], plus [hostChar]]

/-- The ways to write a number that begins and ends an address of four numbers, up to a greatest one
above two hundred. -/
def numberUpTo (top : List (List Node)) : Node :=
  .choice ([[digitBetween '1' '9', maybe [digit]], [one '1', digit, digit]] ++ top)

def addressParts : List Node :=
  [numberUpTo [[one '2', oneOf (SetItem.each ['0', '1']), digit],
      [one '2', one '2', digitBetween '0' '3']],
   times 2 2 [one '.', .choice [[maybe [one '1'], times 1 2 [digit]],
      [one '2', digitBetween '0' '4', digit], [one '2', one '5', digitBetween '0' '5']]],
   one '.',
   numberUpTo [[one '2', digitBetween '0' '4', digit], [one '2', one '5', digitBetween '0' '4']]]

def hostParts : List Node :=
  hostRuns ++ [star (one '.' :: hostRuns), one '.',
    .repeat 2 none .greedy [oneOf [.between 'a' 'z', .range 0xA1 0xFFFF]], maybe [one '.']]

def urlParts : List Node :=
  [.anchor .lineStart, one 'h', one 't', one 't', one 'p', maybe [one 's'], one ':', one '/',
    one '/', maybe [plus [notBlank], maybe [one ':', star [notBlank]], one '@'],
    .choice [addressParts, hostParts],
    maybe [one ':', times 2 5 [digit]],
    maybe [oneOf (SetItem.each ['/', '?', '#']), star [notBlank]],
    .anchor .lineEnd]

def url : Pattern := ⟨true, urlSource.toList, urlFlags, .ofParts urlFlags [] urlParts⟩

end RecordCheck.Pattern
