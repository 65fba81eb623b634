import RecordCheck.Text.Utf8

/-!
# UTF-8 read back

Reading UTF-8 inverts writing it: the bytes of a text are read as its characters, and what can be
read are the bytes of what is read. The encoding written here is that of the standard library, so
reading fails just where the library finds bytes that are not UTF-8.

## Main definitions

* `Text.Utf8.Form`: the bytes that stand for a code point.

## Main statements

* `Text.Utf8.form_encodeChar`, `Text.Utf8.Form.encodeChar_ofNat`: the forms are what is written.
* `Text.Utf8.Form.decode?_append`, `Text.Utf8.exists_form`: the forms are what is read.
* `Text.Utf8.decode?_eq_some_iff`, `Text.Utf8.decode?_toUTF8`, `Text.Utf8.decode?_eq_none_iff`: what
  bytes are read as.
-/
set_option autoImplicit false

namespace RecordCheck.Text.Utf8

/-! ## The bytes of a code point -/

theorem tail?_eq_some {b : UInt8} {n : Nat} :
    tail? b = some n ↔ 0x80 ≤ b.toNat ∧ b.toNat ≤ 0xBF ∧ n = b.toNat - 0x80 := by
  simp only [tail?, part?]
  grind

/-- The part of the second byte after a given first one. -/
def second? (first : Nat) : UInt8 → Option Nat :=
  part? (secondBounds first).1 (secondBounds first).2

theorem second?_eq_some {first n : Nat} {b : UInt8} : second? first b = some n ↔
    0x80 ≤ b.toNat ∧ b.toNat ≤ 0xBF ∧ n = b.toNat - 0x80 ∧ (first = 0xE0 → 0xA0 ≤ b.toNat) ∧
      (first = 0xED → b.toNat ≤ 0x9F) ∧ (first = 0xF0 → 0x90 ≤ b.toNat) ∧
      (first = 0xF4 → b.toNat ≤ 0x8F) := by
  simp only [second?, part?, secondBounds]
  grind

/-- The bytes that stand for a code point, which are as many as it needs. -/
inductive Form (code : Nat) : List UInt8 → Prop
  | one {a : UInt8} : a.toNat < 0x80 → code = a.toNat → Form code [a]
  | two {a b : UInt8} {y : Nat} : 0xC2 ≤ a.toNat → a.toNat < 0xE0 → tail? b = some y →
      code = (a.toNat - 0xC0) * 0x40 + y → Form code [a, b]
  | three {a b c : UInt8} {y z : Nat} : 0xE0 ≤ a.toNat → a.toNat < 0xF0 →
      second? a.toNat b = some y → tail? c = some z →
      code = (a.toNat - 0xE0) * 0x1000 + y * 0x40 + z → Form code [a, b, c]
  | four {a b c d : UInt8} {y z w : Nat} : 0xF0 ≤ a.toNat → a.toNat < 0xF5 →
      second? a.toNat b = some y → tail? c = some z → tail? d = some w →
      code = (a.toNat - 0xF0) * 0x40000 + y * 0x1000 + z * 0x40 + w → Form code [a, b, c, d]

theorem toNat_toUInt8 {n : Nat} (small : n < 256) : n.toUInt8.toNat = n := by
  rw [Nat.toUInt8, UInt8.toNat_ofNat', Nat.mod_eq_of_lt small]

theorem toUInt8_eq {n : Nat} {b : UInt8} (same : n = b.toNat) : n.toUInt8 = b := by
  rw [same, Nat.toUInt8, UInt8.ofNat_toNat]

namespace Form

variable {code : Nat} {bytes : List UInt8}

/-- Neither surrogates have a form nor what lies above the last code point. -/
theorem isValidChar (form : Form code bytes) : code.isValidChar := by
  cases form <;> simp only [second?_eq_some, tail?_eq_some, Nat.isValidChar] at * <;> omega

theorem encodeChar_ofNat (form : Form code bytes) : encodeChar (Char.ofNat code) = bytes := by
  have own : (Char.ofNat code).toNat = code := by
    rw [Char.ofNat, dif_pos form.isValidChar]
    rfl
  rw [encodeChar, own]
  cases form with
  | one first same =>
    rw [if_pos (by omega), toUInt8_eq same]
  | @two a b y least most second same =>
    have second := tail?_eq_some.1 second
    have one : (0xC0 + code / 0x40).toUInt8 = a := toUInt8_eq (by omega)
    have two : (0x80 + code % 0x40).toUInt8 = b := toUInt8_eq (by omega)
    rw [if_neg (by omega), if_pos (by omega), one, two]
  | @three a b c y z least most second third same =>
    have second := second?_eq_some.1 second
    have third := tail?_eq_some.1 third
    have one : (0xE0 + code / 0x1000).toUInt8 = a := toUInt8_eq (by omega)
    have two : (0x80 + code / 0x40 % 0x40).toUInt8 = b := toUInt8_eq (by omega)
    have three : (0x80 + code % 0x40).toUInt8 = c := toUInt8_eq (by omega)
    rw [if_neg (by omega), if_neg (by omega), if_pos (by omega), one, two, three]
  | @four a b c d y z w least most second third fourth same =>
    have second := second?_eq_some.1 second
    have third := tail?_eq_some.1 third
    have fourth := tail?_eq_some.1 fourth
    have one : (0xF0 + code / 0x40000).toUInt8 = a := toUInt8_eq (by omega)
    have two : (0x80 + code / 0x1000 % 0x40).toUInt8 = b := toUInt8_eq (by omega)
    have three : (0x80 + code / 0x40 % 0x40).toUInt8 = c := toUInt8_eq (by omega)
    have four : (0x80 + code % 0x40).toUInt8 = d := toUInt8_eq (by omega)
    rw [if_neg (by omega), if_neg (by omega), if_neg (by omega), one, two, three, four]

/-- Behind the form of a code point, the rest is read on its own. -/
theorem decode?_append (form : Form code bytes) (rest : List UInt8) :
    decode? (bytes ++ rest) = (decode? rest).map (Char.ofNat code :: ·) := by
  cases form with
  | one first code =>
    rw [List.singleton_append, decode?.eq_def]
    simp only [if_pos first, code]
  | two least most second code =>
    rw [List.cons_append, List.singleton_append, decode?.eq_def]
    simp only
    rw [if_neg (by omega), if_neg (by omega), if_pos (by omega), second, code]
    cases decode? rest <;> rfl
  | three least most second third code =>
    rw [List.cons_append, List.cons_append, List.singleton_append, decode?.eq_def]
    simp only
    rw [second?] at second
    rw [if_neg (by omega), if_neg (by omega), if_neg (by omega), if_pos (by omega), second, third,
      code]
    cases decode? rest <;> rfl
  | four least most second third fourth code =>
    rw [List.cons_append, List.cons_append, List.cons_append, List.singleton_append,
      decode?.eq_def]
    simp only
    rw [second?] at second
    rw [if_neg (by omega), if_neg (by omega), if_neg (by omega), if_neg (by omega),
      if_pos (by omega), second, third, fourth, code]
    cases decode? rest <;> rfl

end Form

theorem form_encodeChar (c : Char) : Form c.toNat (encodeChar c) := by
  have valid : c.toNat.isValidChar := c.valid
  have tail (m : Nat) : tail? (0x80 + m % 0x40).toUInt8 = some (m % 0x40) := by
    rw [tail?_eq_some, toNat_toUInt8 (by omega)]
    omega
  simp only [encodeChar]
  generalize c.toNat = n at *
  by_cases one : n < 0x80
  · rw [if_pos one]
    have byte := @toNat_toUInt8 n (by omega)
    exact .one (by omega) byte.symm
  by_cases two : n < 0x800
  · rw [if_neg one, if_pos two]
    have byte := @toNat_toUInt8 (0xC0 + n / 0x40) (by omega)
    exact .two (by omega) (by omega) (tail n) (by omega)
  by_cases three : n < 0x10000
  · rw [if_neg one, if_neg two, if_pos three]
    have byte := @toNat_toUInt8 (0xE0 + n / 0x1000) (by omega)
    have next := @toNat_toUInt8 (0x80 + n / 0x40 % 0x40) (by omega)
    have second : second? (0xE0 + n / 0x1000).toUInt8.toNat (0x80 + n / 0x40 % 0x40).toUInt8 =
        some (n / 0x40 % 0x40) := second?_eq_some.2 (by omega)
    exact .three (by omega) (by omega) second (tail n) (by omega)
  · rw [if_neg one, if_neg two, if_neg three]
    have byte := @toNat_toUInt8 (0xF0 + n / 0x40000) (by omega)
    have next := @toNat_toUInt8 (0x80 + n / 0x1000 % 0x40) (by omega)
    have second : second? (0xF0 + n / 0x40000).toUInt8.toNat
        (0x80 + n / 0x1000 % 0x40).toUInt8 = some (n / 0x1000 % 0x40) :=
      second?_eq_some.2 (by omega)
    exact .four (by omega) (by omega) second (tail (n / 0x40)) (tail n) (by omega)

/-- What is read starts with the form of a code point, unless there are no bytes. -/
theorem exists_form {bytes : List UInt8} {cs : List Char} : decode? bytes = some cs →
    bytes = [] ∧ cs = [] ∨ ∃ first code rest more, Form code first ∧ bytes = first ++ rest ∧
      decode? rest = some more ∧ cs = Char.ofNat code :: more := by
  fun_cases decode? bytes <;> intro read
  case case1 => exact .inl ⟨rfl, (Option.some.inj read).symm⟩
  case case2 a rest _ first =>
    obtain ⟨more, inner, rfl⟩ := Option.map_eq_some_iff.1 read
    exact .inr ⟨[a], _, rest, more, .one first rfl, rfl, inner, rfl⟩
  case case4 a _ _ least most b rest y more inner second =>
    exact .inr ⟨[a, b], _, rest, more, .two (by omega) most second rfl, rfl, inner,
      (Option.some.inj read).symm⟩
  case case7 a _ _ _ least most b c rest y z more inner third second =>
    exact .inr ⟨[a, b, c], _, rest, more, .three (by omega) most second third rfl, rfl, inner,
      (Option.some.inj read).symm⟩
  case case10 a _ _ _ _ least most b c d rest y z w more inner fourth third second =>
    exact .inr ⟨[a, b, c, d], _, rest, more, .four (by omega) most second third fourth rfl, rfl,
      inner, (Option.some.inj read).symm⟩
  all_goals cases read

/-! ## Texts -/

theorem decode?_encode (cs : List Char) : decode? (encode cs) = some cs := by
  induction cs with
  | nil => rw [encode, List.flatMap_nil, decode?]
  | cons c cs ih =>
    have step := (form_encodeChar c).decode?_append (encode cs)
    rw [ih, Char.ofNat_toNat] at step
    exact step

theorem eq_encode_of_decode? {bytes : List UInt8} {cs : List Char}
    (read : decode? bytes = some cs) : bytes = encode cs := by
  induction cs generalizing bytes with
  | nil =>
    obtain ⟨rfl, -⟩ | ⟨_, _, _, _, _, _, _, fails⟩ := exists_form read
    · rfl
    · cases fails
  | cons c cs ih =>
    obtain ⟨-, fails⟩ | ⟨first, code, rest, more, form, rfl, inner, same⟩ := exists_form read
    · cases fails
    · obtain ⟨rfl, rfl⟩ := List.cons.inj same
      rw [ih inner, ← form.encodeChar_ofNat]
      rfl

theorem encodeChar_eq (c : Char) : encodeChar c = String.utf8EncodeChar c := by
  have valid : c.val.toNat.isValidChar := c.valid
  rw [encodeChar, String.utf8EncodeChar]
  simp only [Char.toNat, Nat.isValidChar, Nat.toUInt8] at *
  grind

theorem toByteArray_encode (cs : List Char) : (encode cs).toByteArray = cs.utf8Encode := by
  have each : encodeChar = String.utf8EncodeChar := funext encodeChar_eq
  rw [encode, each, List.utf8Encode]

/-- The bytes of a text are read as its characters. -/
theorem decode?_toUTF8 (s : String) : decode? s.toUTF8.data.toList = some s.toList := by
  have bytes : s.toUTF8.data.toList = encode s.toList := by
    rw [String.toUTF8_eq_toByteArray, ← String.utf8Encode_toList, ← toByteArray_encode,
      List.toList_data_toByteArray]
  rw [bytes, decode?_encode]

/-- Nothing else can be read. -/
theorem decode?_eq_none_iff {bytes : List UInt8} :
    decode? bytes = none ↔ ¬ bytes.toByteArray.IsValidUTF8 := by
  constructor
  · rintro fails ⟨cs, same⟩
    rw [← toByteArray_encode, List.toByteArray_inj] at same
    rw [same, decode?_encode] at fails
    cases fails
  · intro invalid
    cases read : decode? bytes with
    | none => rfl
    | some cs =>
      rw [eq_encode_of_decode? read, toByteArray_encode] at invalid
      exact absurd ⟨cs, rfl⟩ invalid

end RecordCheck.Text.Utf8
