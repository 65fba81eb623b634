import RecordCheck.Proofs.Keyed
import RecordCheck.Proofs.QuotedText

/-!
# Values as text and back

Null, text, lists, and mappings from different texts are printed as JSON text that is read back as
the same value, with the entries of mappings in their order, by a reader that goes as deep as the
value does.

## Main definitions

* `Value.Legible`: values of these kinds.
* `Value.depth`: how many lists and mappings lie inside each other.

## Main statements

* `Json.print_legible`: legible values are read back from their text.
-/
set_option autoImplicit false

namespace RecordCheck

/-- Null, text, lists of legible values, and mappings from different texts to such values. -/
inductive Value.Legible : Value → Prop
  | null : Legible .null
  | text {v : Value} : v.IsText → Legible v
  | list {vs : List Value} : (∀ v ∈ vs, Legible v) → Legible (.list vs)
  | dict {entries : List (Value × Value)} : Keyed.IsDistinct entries →
    (∀ entry ∈ entries, entry.1.IsText) → (∀ entry ∈ entries, Legible entry.2) →
    Legible (.dict entries)

mutual

/-- How many collections and mappings lie inside each other in a value. -/
def Value.depth : Value → Nat
  | .items _ vs => valuesDepth vs + 1
  | .dict entries => entriesDepth entries + 1
  | _ => 0

@[inherit_doc Value.depth]
def valuesDepth : List Value → Nat
  | [] => 0
  | v :: vs => max v.depth (valuesDepth vs)

@[inherit_doc Value.depth]
def entriesDepth : List (Value × Value) → Nat
  | [] => 0
  | (_, v) :: entries => max v.depth (entriesDepth entries)

end

namespace Json

/-- The characters that a value may start with. -/
def opening : List Char := ['n', '"', '[', '\x7b']

theorem skipBlanks_opening {c : Char} (opens : c ∈ opening) (cs : List Char) :
    skipBlanks (c :: cs) = c :: cs := by
  have plain : (c == ' ' || c == '\t' || c == '\n' || c == '\r') = false := by
    simp only [opening, List.mem_cons, List.not_mem_nil, or_false] at opens
    rcases opens with rfl | rfl | rfl | rfl <;> rfl
  rw [skipBlanks, List.dropWhile_cons_of_neg (by simp [plain])]

/-- A text that starts like a value. -/
def Opens (t : String) : Prop := ∃ c cs, t.toList = c :: cs ∧ c ∈ opening

/-- Texts with separators between them. -/
def joined (ts : List String) : List Char := (", ".intercalate ts).toList

theorem joined_single (t : String) : joined [t] = t.toList := by
  simp [joined]

theorem joined_cons (t u : String) (ts : List String) :
    joined (t :: u :: ts) = t.toList ++ ',' :: ' ' :: joined (u :: ts) := by
  simp [joined, String.toList_intercalate]

theorem Opens.joined {t : String} (opens : Opens t) (ts : List String) :
    ∃ c cs, joined (t :: ts) = c :: cs ∧ c ∈ opening := by
  obtain ⟨c, cs, same, first⟩ := opens
  cases ts with
  | nil => exact ⟨c, cs, by rw [joined_single, same], first⟩
  | cons u ts => exact ⟨c, _, by rw [joined_cons, same, List.cons_append], first⟩

theorem Opens.skip {t : String} (opens : Opens t) (ts : List String) (rest : List Char) :
    skipBlanks (Json.joined (t :: ts) ++ rest) = Json.joined (t :: ts) ++ rest := by
  obtain ⟨c, cs, same, first⟩ := opens.joined ts
  rw [same, List.cons_append, skipBlanks_opening first]

/-- Where a value begins, a collection is not closed. -/
theorem Opens.ne_closing {t : String} (opens : Opens t) {ts : List String} {rest after : List Char}
    {c : Char} (closing : c ∉ opening) : Json.joined (t :: ts) ++ rest ≠ c :: after := by
  obtain ⟨first, cs, same, among⟩ := opens.joined ts
  rw [same, List.cons_append]
  rintro closed
  exact closing ((List.cons.inj closed).1 ▸ among)

/-- A text that a value is read from, whatever follows. -/
structure ReadsBack (v : Value) (t : String) : Prop where
  opens : Opens t
  read : ∀ depth fuel rest, v.depth ≤ depth → 2 * t.toList.length ≤ fuel →
    readValue depth fuel (t.toList ++ rest) = .ok (v, rest)

/-! ## Reading -/

theorem readsBack_null : ReadsBack .null "null" where
  opens := ⟨'n', ['u', 'l', 'l'], rfl, by decide⟩
  read depth fuel rest _ enough := by
    obtain ⟨fuel, rfl⟩ := Nat.exists_eq_add_of_le' (Nat.le_trans (by decide) enough : 1 ≤ fuel)
    rfl

theorem readsBack_text {v : Value} (isText : v.IsText) :
    ReadsBack v (String.ofList (quoted v)) where
  opens := ⟨'"', _, String.toList_ofList .., by decide⟩
  read depth fuel rest _ enough := by
    rw [String.toList_ofList] at enough ⊢
    have some : 2 ≤ (quoted v).length := by simp [quoted]
    obtain ⟨fuel, rfl⟩ := Nat.exists_eq_add_of_le' (show 1 ≤ fuel by omega)
    obtain ⟨tail, codes, same, read, text⟩ := readText_quoted isText fuel rest
      (show (quoted v).length ≤ fuel + 1 by omega)
    rw [same, readValue, read, ← text]
    rfl

/-- The entries of a list are read one after the other. -/
theorem readItems_back {vs : List Value} {ts : List String} (each : List.Forall₂ ReadsBack vs ts)
    (some : vs ≠ []) {depth fuel : Nat} (deep : valuesDepth vs ≤ depth)
    (enough : 2 * (joined ts).length + 1 ≤ fuel) (rest : List Char) :
    readItems depth fuel (joined ts ++ ']' :: rest) = .ok (vs, rest) := by
  induction each generalizing fuel with
  | nil => exact (some rfl).elim
  | @cons v t vs ts first others ih =>
    obtain ⟨fuel, rfl⟩ := Nat.exists_eq_add_of_le' (Nat.le_trans (by omega) enough : 1 ≤ fuel)
    rw [valuesDepth] at deep
    cases others with
    | nil =>
      rw [joined_single] at enough ⊢
      rw [readItems, first.read depth fuel _ (by omega) (by omega)]
      rfl
    | @cons w u ws us second others =>
      rw [joined_cons] at enough ⊢
      simp only [List.length_append, List.length_cons] at enough
      have behind : readItems depth fuel (joined (u :: us) ++ ']' :: rest) =
          .ok (w :: ws, rest) := ih (by simp) (by omega) (by omega)
      have blank : skipBlanks (' ' :: (joined (u :: us) ++ ']' :: rest)) =
          joined (u :: us) ++ ']' :: rest := second.opens.skip us _
      have comma (cs : List Char) : skipBlanks (',' :: cs) = ',' :: cs := rfl
      rw [List.append_assoc, readItems, first.read depth fuel _ (by omega) (by omega)]
      simp only [List.cons_append, comma, blank, behind]
      rfl

/-- A text in brackets is read back when it is read with any text behind the closing bracket. -/
theorem readsBack_brackets {v : Value} {t : String} {before after : Char} {inner : List Char}
    (shape : t.toList = before :: (inner ++ [after])) (opens : before ∈ opening)
    (read : ∀ depth fuel rest, v.depth ≤ depth → 2 * inner.length + 3 ≤ fuel →
      readValue depth (fuel + 1) (before :: (inner ++ after :: rest)) = .ok (v, rest)) :
    ReadsBack v t where
  opens := ⟨before, _, shape, opens⟩
  read depth fuel rest deep enough := by
    rw [shape] at enough ⊢
    simp only [List.length_cons, List.length_append, List.length_nil] at enough
    obtain ⟨fuel, rfl⟩ := Nat.exists_eq_add_of_le' (Nat.le_trans (by omega) enough : 1 ≤ fuel)
    rw [List.cons_append, List.append_assoc, List.singleton_append]
    exact read depth fuel rest deep (by omega)

theorem readsBack_list {vs : List Value} {ts : List String} (each : List.Forall₂ ReadsBack vs ts) :
    ReadsBack (.list vs) ("[" ++ ", ".intercalate ts ++ "]") := by
  have shape : ("[" ++ ", ".intercalate ts ++ "]").toList = '[' :: (joined ts ++ [']']) := by
    simp [joined]
  refine readsBack_brackets shape (by decide) fun depth fuel rest deep enough => ?_
  rw [Value.depth] at deep
  have entered : depth ≠ 0 := by omega
  rw [readValue, if_neg entered]
  cases each with
  | nil => rfl
  | @cons v t vs ts first others =>
    have items : readItems (depth - 1) fuel (joined (t :: ts) ++ ']' :: rest) =
        .ok (v :: vs, rest) :=
      readItems_back (.cons first others) (by simp) (by omega) (by omega) rest
    rw [first.opens.skip]
    split
    · next closed => exact (first.opens.ne_closing (by decide) closed).elim
    · rw [items]
      rfl

/-- The text of an entry of a mapping. -/
def EntryBack (entry : Value × Value) (t : String) : Prop :=
  ∃ u, t = String.ofList (quoted entry.1) ++ ": " ++ u ∧ entry.1.IsText ∧ ReadsBack entry.2 u

theorem EntryBack.opens {entry : Value × Value} {t : String} (back : EntryBack entry t) :
    Opens t := by
  obtain ⟨u, rfl, -, -⟩ := back
  have shape : (String.ofList (quoted entry.1) ++ ": " ++ u).toList =
      quoted entry.1 ++ ':' :: ' ' :: u.toList := by simp
  exact ⟨'"', _, shape, by decide⟩

/-- The entries of a mapping from one on that was read, up to what separates it from the next. -/
def entriesFrom (depth fuel : Nat) (entry : Value × Value) (rest : List Char) :
    Except Fault (List (Value × Value) × List Char) :=
  match skipBlanks rest with
  | '\x7d' :: rest => .ok ([entry], rest)
  | ',' :: rest => (readEntries depth fuel (skipBlanks rest)).map fun (es, rest) =>
      (entry :: es, rest)
  | rest => .error (.malformed .comma rest.length)

theorem readEntries_cons {entry : Value × Value} {t : String} (back : EntryBack entry t)
    {depth fuel : Nat} (deep : entry.2.depth ≤ depth) (enough : 2 * t.toList.length ≤ fuel)
    (rest : List Char) : readEntries depth (fuel + 1) (t.toList ++ rest) =
      entriesFrom depth fuel entry rest := by
  obtain ⟨key, v⟩ := entry
  obtain ⟨u, rfl, isText, back⟩ := back
  dsimp only at isText back deep
  have shape : (String.ofList (quoted key) ++ ": " ++ u).toList =
      quoted key ++ ':' :: ' ' :: u.toList := by simp
  rw [shape] at enough ⊢
  simp only [List.length_append, List.length_cons] at enough
  obtain ⟨tail, codes, same, read, rfl⟩ := readText_quoted isText fuel
    (':' :: ' ' :: (u.toList ++ rest)) (by omega)
  have blank : skipBlanks (' ' :: (u.toList ++ rest)) = u.toList ++ rest := by
    have skip := back.opens.skip [] rest
    rwa [joined_single] at skip
  have colon (cs : List Char) : skipBlanks (':' :: cs) = ':' :: cs := rfl
  rw [List.append_assoc, List.cons_append, List.cons_append, same, readEntries, read]
  simp only [colon, blank, back.read depth fuel rest deep (by omega)]
  rfl

/-- The entries of a mapping are read one after the other. -/
theorem readEntries_back {es : List (Value × Value)} {ts : List String}
    (each : List.Forall₂ EntryBack es ts) (some : es ≠ []) {depth fuel : Nat}
    (deep : entriesDepth es ≤ depth) (enough : 2 * (joined ts).length + 1 ≤ fuel)
    (rest : List Char) :
    readEntries depth fuel (joined ts ++ '\x7d' :: rest) = .ok (es, rest) := by
  induction each generalizing fuel with
  | nil => exact (some rfl).elim
  | @cons e t es ts first others ih =>
    obtain ⟨fuel, rfl⟩ := Nat.exists_eq_add_of_le' (Nat.le_trans (by omega) enough : 1 ≤ fuel)
    rw [entriesDepth] at deep
    cases others with
    | nil =>
      rw [joined_single] at enough ⊢
      rw [readEntries_cons first (by omega) (by omega)]
      rfl
    | @cons f u fs us second others =>
      rw [joined_cons] at enough ⊢
      simp only [List.length_append, List.length_cons] at enough
      have behind : readEntries depth fuel (joined (u :: us) ++ '\x7d' :: rest) =
          .ok (f :: fs, rest) := ih (by simp) (by omega) (by omega)
      have blank : skipBlanks (' ' :: (joined (u :: us) ++ '\x7d' :: rest)) =
          joined (u :: us) ++ '\x7d' :: rest := second.opens.skip us _
      have comma (cs : List Char) : skipBlanks (',' :: cs) = ',' :: cs := rfl
      rw [List.append_assoc, readEntries_cons first (by omega) (by omega), entriesFrom]
      simp only [List.cons_append, comma, blank, behind]
      rfl

theorem readsBack_dict {es : List (Value × Value)} {ts : List String}
    (distinct : Keyed.IsDistinct es) (each : List.Forall₂ EntryBack es ts) :
    ReadsBack (.dict es) ("\x7b" ++ ", ".intercalate ts ++ "\x7d") := by
  have shape : ("\x7b" ++ ", ".intercalate ts ++ "\x7d").toList =
      '\x7b' :: (joined ts ++ ['\x7d']) := by simp [joined]
  refine readsBack_brackets shape (by decide) fun depth fuel rest deep enough => ?_
  rw [Value.depth] at deep
  have entered : depth ≠ 0 := by omega
  rw [readValue, if_neg entered]
  cases each with
  | nil => rfl
  | @cons e t es ts first others =>
    have entries : readEntries (depth - 1) fuel (joined (t :: ts) ++ '\x7d' :: rest) =
        .ok (e :: es, rest) :=
      readEntries_back (.cons first others) (by simp) (by omega) (by omega) rest
    rw [first.opens.skip]
    split
    · next closed => exact (first.opens.ne_closing (by decide) closed).elim
    · have kept : Value.ofEntries (e :: es) = .dict (e :: es) := by
        rw [Value.ofEntries, Keyed.putAll_nil distinct]
      rw [entries, ← kept]
      rfl

/-! ## Printing -/

theorem printItems_back {vs : List Value} (each : ∀ v ∈ vs, ∃ t, print v = .ok t ∧ ReadsBack v t) :
    ∃ ts, printItems vs = .ok ts ∧ List.Forall₂ ReadsBack vs ts := by
  induction vs with
  | nil => exact ⟨[], rfl, .nil⟩
  | cons v vs ih =>
    obtain ⟨⟨t, shown, back⟩, others⟩ := List.forall_mem_cons.1 each
    obtain ⟨ts, rest, backs⟩ := ih others
    refine ⟨t :: ts, ?_, .cons back backs⟩
    rw [printItems, shown, rest]
    rfl

theorem printEntries_back {es : List (Value × Value)} (keys : ∀ e ∈ es, e.1.IsText)
    (each : ∀ e ∈ es, ∃ t, print e.2 = .ok t ∧ ReadsBack e.2 t) :
    ∃ ts, printEntries es = .ok ts ∧ List.Forall₂ EntryBack es ts := by
  induction es with
  | nil => exact ⟨[], rfl, .nil⟩
  | cons e es ih =>
    obtain ⟨⟨t, shown, back⟩, others⟩ := List.forall_mem_cons.1 each
    obtain ⟨first, later⟩ := List.forall_mem_cons.1 keys
    obtain ⟨ts, rest, backs⟩ := ih later others
    refine ⟨_ :: ts, ?_, .cons ⟨t, rfl, first, back⟩ backs⟩
    rw [printEntries, (print_quoted first.isStr).2, shown, rest]
    rfl

theorem print_readsBack {v : Value} (legible : v.Legible) :
    ∃ t, print v = .ok t ∧ ReadsBack v t := by
  induction legible with
  | null => exact ⟨_, rfl, readsBack_null⟩
  | text isText => exact ⟨_, (print_quoted isText.isStr).1, readsBack_text isText⟩
  | list _ ih =>
    obtain ⟨ts, shown, backs⟩ := printItems_back ih
    refine ⟨_, ?_, readsBack_list backs⟩
    rw [print, shown]
    rfl
  | dict distinct keys _ ih =>
    obtain ⟨ts, shown, backs⟩ := printEntries_back keys ih
    refine ⟨_, ?_, readsBack_dict distinct backs⟩
    rw [print, shown]
    rfl

/-- A legible value has a text, and is read from it. -/
theorem print_legible {v : Value} (legible : v.Legible) :
    ∃ t, print v = .ok t ∧ ∀ depth, v.depth ≤ depth → readWithin depth t.toList = .ok v := by
  obtain ⟨t, shown, back⟩ := print_readsBack legible
  refine ⟨t, shown, fun depth deep => ?_⟩
  obtain ⟨c, cs, same, opens⟩ := back.opens
  have noMark : ¬ t.toList.head? == some '\uFEFF' := by
    rw [same]
    rintro mark
    obtain rfl : c = '\uFEFF' := by simpa using mark
    exact absurd opens (by decide)
  have skip : skipBlanks t.toList = t.toList := by rw [same, skipBlanks_opening opens]
  have whole := back.read depth (2 * t.toList.length + 2) [] deep (by omega)
  rw [List.append_nil] at whole
  rw [readWithin, if_neg noMark, skip, whole]
  rfl

end Json

end RecordCheck
