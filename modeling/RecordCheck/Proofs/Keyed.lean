import Mathlib.Data.List.Basic
import RecordCheck.Value.Equality

/-!
# Lists of entries with keys

Putting entries into a list keeps the keys that are there in their order, and adds new ones behind
them.

## Main statements

* `Keyed.keys_putAll`: the keys after entries were put into a list.
* `Keyed.mem_putAll`: where the entries come from.
* `Keyed.putAll_nil`: entries of which no two have the same key stay as they are.
-/
set_option autoImplicit false

namespace RecordCheck

theorem Value.same_of_isStr {v : Value} (isStr : v.isStr) : v.same v := by
  cases v with
  | str | brokenStr => simp [same]
  | _ => cases isStr

theorem Value.eq_of_same_text {v w : Value} (text : w.isStr) (same : v.same w) : v = w := by
  cases w with
  | str s | brokenStr s =>
    cases v <;> simp_all [Value.same, Value.sameNumber, Value.number?]
  | _ => cases text

namespace Keyed

/-- What is looked up in a list stands in it. -/
theorem mem_of_lookup {κ β : Type} [BEq κ] [LawfulBEq κ] {key : κ} {b : β} {entries : List (κ × β)}
    (found : entries.lookup key = some b) : (key, b) ∈ entries := by
  obtain ⟨before, behind, rfl, -⟩ := List.lookup_eq_some_iff.1 found
  simp

variable {α : Type} {key : Value} {a : α} {entries : List (Value × α)}

theorem mem_of_find? (found : find? key entries = some a) : ∃ k, (k, a) ∈ entries := by
  induction entries with
  | nil => cases found
  | cons entry entries ih =>
    obtain ⟨k, b⟩ := entry
    rw [find?] at found
    split at found
    · cases found
      exact ⟨k, by simp⟩
    · obtain ⟨l, member⟩ := ih found
      exact ⟨l, by simp [member]⟩

theorem keys_put : (put key a entries).map (·.1) =
    entries.map (·.1) ++ if entries.any (·.1.same key) then [] else [key] := by
  induction entries with
  | nil => rfl
  | cons entry entries ih =>
    obtain ⟨k, b⟩ := entry
    rw [put]
    split
    · next same => simp [same]
    · next other =>
      simp only [Bool.not_eq_true] at other
      simp only [List.map_cons, ih, List.any_cons, other, Bool.false_or, List.cons_append]

theorem mem_put {entry : Value × α} (h : entry ∈ put key a entries) :
    entry ∈ entries ∨ entry.2 = a := by
  induction entries with
  | nil => exact .inr (by rw [List.mem_singleton.1 h])
  | cons first entries ih =>
    obtain ⟨k, b⟩ := first
    rw [put] at h
    split at h
    · rcases List.mem_cons.1 h with rfl | h
      · exact .inr rfl
      · exact .inl (by simp [h])
    · rcases List.mem_cons.1 h with rfl | h
      · exact .inl (by simp)
      · exact (ih h).imp_left fun h => by simp [h]

/-- Putting entries with the same keys and related values into lists keeps the lists related. -/
theorem forall₂_put {β : Type} {R : α → β → Prop} {b : β} {others : List (Value × β)}
    (h : List.Forall₂ (fun e f => e.1 = f.1 ∧ R e.2 f.2) entries others) (related : R a b) :
    List.Forall₂ (fun e f => e.1 = f.1 ∧ R e.2 f.2) (put key a entries) (put key b others) := by
  induction h with
  | nil => exact .cons ⟨rfl, related⟩ .nil
  | @cons e f entries others first rest ih =>
    obtain ⟨k, x⟩ := e
    obtain ⟨_, y⟩ := f
    obtain ⟨rfl, same⟩ := first
    rw [put, put]
    split
    · exact .cons ⟨rfl, related⟩ rest
    · exact .cons ⟨rfl, same⟩ ih

theorem forall₂_putAll {β : Type} {R : α → β → Prop} {base : List (Value × α)}
    {others : List (Value × β)} {more : List (Value × α)} {further : List (Value × β)}
    (first : List.Forall₂ (fun e f => e.1 = f.1 ∧ R e.2 f.2) base others)
    (rest : List.Forall₂ (fun e f => e.1 = f.1 ∧ R e.2 f.2) more further) :
    List.Forall₂ (fun e f => e.1 = f.1 ∧ R e.2 f.2) (putAll base more) (putAll others further) := by
  induction rest generalizing base others with
  | nil => exact first
  | @cons e f more further pair _ ih =>
    obtain ⟨k, x⟩ := e
    obtain ⟨_, y⟩ := f
    obtain ⟨rfl, same⟩ := pair
    exact ih (forall₂_put first same)

theorem keys_putAll (base more : List (Value × α)) :
    ((putAll base more).map (·.1)).Sublist (base.map (·.1) ++ more.map (·.1)) := by
  induction more generalizing base with
  | nil => simp [putAll]
  | cons entry more ih =>
    have step : ((put entry.1 entry.2 base).map (·.1)).Sublist (base.map (·.1) ++ [entry.1]) := by
      rw [keys_put]
      refine List.Sublist.append_left ?_ _
      split <;> simp
    have rest := ih (put entry.1 entry.2 base)
    simpa [putAll] using rest.trans (step.append_right _)

theorem mem_putAll {base more : List (Value × α)} {entry : Value × α}
    (h : entry ∈ putAll base more) : ∃ source ∈ base ++ more, source.2 = entry.2 := by
  induction more generalizing base with
  | nil => exact ⟨entry, by simpa [putAll] using h, rfl⟩
  | cons first more ih =>
    obtain ⟨source, member, same⟩ := ih h
    rcases List.mem_append.1 member with old | new
    · rcases mem_put old with old | value
      · exact ⟨source, by simp [old], same⟩
      · exact ⟨first, by simp, value.symm.trans same⟩
    · exact ⟨source, by simp [new], same⟩

/-- No key stands in a list twice. -/
def IsDistinct (entries : List (Value × α)) : Prop :=
  (entries.map (·.1)).Pairwise fun k l => k ≠ l ∧ k.same l = false

theorem isDistinct_single (entry : Value × α) : IsDistinct [entry] :=
  List.pairwise_singleton _ entry.1

/-- An entry of a list has a key of its own. -/
theorem IsDistinct.ne_of_append {front rest : List (Value × α)}
    (distinct : IsDistinct (front ++ (key, a) :: rest)) :
    ∀ entry ∈ front ++ rest, entry.1 ≠ key := by
  rw [IsDistinct, List.map_append, List.map_cons, List.pairwise_append, List.pairwise_cons]
    at distinct
  obtain ⟨-, ⟨behind, -⟩, before⟩ := distinct
  intro entry member
  rcases List.mem_append.1 member with member | member
  · exact (before entry.1 (List.mem_map_of_mem member) key (by simp)).1
  · exact (behind entry.1 (List.mem_map_of_mem member)).1.symm

theorem put_new (new : ∀ entry ∈ entries, entry.1.same key = false) :
    put key a entries = entries ++ [(key, a)] := by
  induction entries with
  | nil => rfl
  | cons entry entries ih =>
    obtain ⟨other, rest⟩ := List.forall_mem_cons.1 new
    rw [put, if_neg (by simp [other]), ih rest, List.cons_append]

theorem isDistinct_put (distinct : IsDistinct entries) (isStr : key.isStr) :
    IsDistinct (put key a entries) := by
  rw [IsDistinct, keys_put]
  split
  · rwa [List.append_nil]
  · next new =>
    refine List.pairwise_append.2 ⟨distinct, List.pairwise_singleton _ _, fun k member l same => ?_⟩
    obtain rfl := List.mem_singleton.1 same
    obtain ⟨entry, inside, rfl⟩ := List.mem_map.1 member
    have other : entry.1.same l = false := by
      simpa using fun same => new (List.any_eq_true.2 ⟨entry, inside, same⟩)
    refine ⟨?_, other⟩
    rintro rfl
    rw [Value.same_of_isStr isStr] at other
    cases other

/-- Entries whose keys are text keep these apart wherever they are put in. -/
theorem isDistinct_putAll {base more : List (Value × α)} (distinct : IsDistinct base)
    (texts : ∀ entry ∈ more, entry.1.isStr) : IsDistinct (putAll base more) := by
  induction more generalizing base with
  | nil => exact distinct
  | cons entry more ih =>
    obtain ⟨first, others⟩ := List.forall_mem_cons.1 texts
    exact ih (isDistinct_put distinct first) others

theorem putAll_append {base more : List (Value × α)} (distinct : IsDistinct (base ++ more)) :
    putAll base more = base ++ more := by
  induction more generalizing base with
  | nil => simp [putAll]
  | cons entry more ih =>
    have new : ∀ old ∈ base, old.1.same entry.1 = false := by
      intro old member
      rw [IsDistinct, List.map_append, List.pairwise_append] at distinct
      exact (distinct.2.2 old.1 (List.mem_map_of_mem member) entry.1 (by simp)).2
    have step : putAll base (entry :: more) = putAll (put entry.1 entry.2 base) more := rfl
    rw [step, put_new new, ih (by simpa using distinct)]
    simp

/-- Entries of which no two have the same key stay as they are. -/
theorem putAll_nil (distinct : IsDistinct entries) : putAll [] entries = entries :=
  putAll_append distinct

end Keyed

end RecordCheck
