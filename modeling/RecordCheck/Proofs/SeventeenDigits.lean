import RecordCheck.Proofs.IntegerText
import RecordCheck.Proofs.Rounding

/-!
# Seventeen digits suffice

Doubles are less than one part in `2^53` apart, and decimals with seventeen digits at most one part
in `10^16`. Of the decimals around a double, the nearest with seventeen digits is therefore nearer
than half a grain, and reads back as the double. So the shortest decimal that reads back is found.

## Main statements

* `Binary64.ofDecimal_of_near`: what reads back with seventeen digits.
* `Binary64.neighbours_near`: one of the neighbours is as near as half their distance.
* `Binary64.ofDecimal_shortest`: the shortest decimal reads back as the double.
-/
set_option autoImplicit false

namespace RecordCheck.Binary64

/-- The distance between the multiples of a power of ten, in units. -/
def spacing (e : Int) : ℚ := 10 ^ e * one

theorem spacing_pos (e : Int) : 0 < spacing e := mul_pos (by positivity) cast_one_pos

theorem units_eq (n : Nat) (e : Int) : Decimal.units ⟨n, e⟩ = n * spacing e := mul_assoc _ _ _

theorem spacing_add (e : Int) (k : Nat) : spacing (e + k) = 10 ^ k * spacing e := by
  rw [spacing, spacing, zpow_add₀ (by norm_num), zpow_natCast]
  ring

/-- A decimal with seventeen digits reads as the double that it is next to. -/
theorem ofDecimal_of_near {n u : Nat} {e : Int} (digits : 10 ^ 16 ≤ n)
    (representable : Representable u) (near : |n * spacing e - u| ≤ spacing e / 2)
    (negative : Bool) : ofDecimal negative n e = .finite negative u representable := by
  have step := spacing_pos e
  have place := lt_grain (n * spacing e)
  have many : (10 ^ 16 * spacing e : ℚ) ≤ n * spacing e :=
    mul_le_mul_of_nonneg_right (by exact_mod_cast digits) step.le
  have grain : spacing e < grain (n * spacing e) := by linarith
  have rounded : roundUnits (n * spacing e) = u :=
    roundUnits_of_near (by positivity) representable (by linarith)
  rw [ofDecimal_eq, units_eq, rounded, ofUnits, dif_pos representable]

/-! ## The leading digit -/

theorem ten_pow_le_of_length {m : Nat} (positive : 0 < m) :
    10 ^ ((Decimal.digitText m).length - 1) ≤ m := by
  by_cases one : (Decimal.digitText m).length - 1 = 0
  · rw [one]
    exact positive
  · have bound := Nat.length_toDigits_le_iff (b := 10) (n := m) (by decide) (Nat.pos_of_ne_zero one)
    by_contra less
    have few := bound.2 (Nat.lt_of_not_le less)
    unfold Decimal.digitText at one few
    omega

/-- The power of ten that is found for a number below one is enough. -/
theorem le_mul_pow {u unit most : Nat} (positive : 0 < u) (bound : unit ≤ Nat.pow 10 most) :
    unit ≤ u * Nat.pow 10
      (((List.range most).find? fun k => unit ≤ u * Nat.pow 10 k).getD most) := by
  cases found : (List.range most).find? fun k => decide (unit ≤ u * Nat.pow 10 k) with
  | some k =>
    have fits := List.find?_some found
    simpa using fits
  | none => exact bound.trans (Nat.le_mul_of_pos_left _ positive)

/-- A positive number is not below the power of ten of its leading digit. -/
theorem spacing_leadingExponent_le {u : Nat} (positive : 0 < u) :
    spacing (leadingExponent u) ≤ u := by
  have bound : one ≤ Nat.pow 10 324 := by decide +kernel
  have unit_pos := one_pos
  unfold leadingExponent spacing
  generalize one = unit at *
  have small := le_mul_pow positive bound
  by_cases large : unit ≤ u
  · have digits := ten_pow_le_of_length (Nat.div_pos large unit_pos)
    have length : 0 < (Decimal.digitText (u / unit)).length := Nat.length_toDigits_pos
    have exponent : ((Decimal.digitText (u / unit)).length : Int) - 1 =
        ((Decimal.digitText (u / unit)).length - 1 : Nat) := by omega
    rw [if_pos large, exponent, zpow_natCast]
    exact_mod_cast (Nat.mul_le_mul_right unit digits).trans (Nat.div_mul_le_self u unit)
  · generalize ((List.range 324).find? fun k => unit ≤ u * Nat.pow 10 k).getD 324 = k at *
    rw [if_neg large, zpow_neg, zpow_natCast, inv_mul_le_iff₀ (by positivity), mul_comm]
    exact_mod_cast small

/-! ## Neighbours -/

/-- The whole number next to a quotient. -/
theorem abs_nearest_sub_le {num den : Nat} (positive : 0 < den) :
    let low := num / den
    let upper := den < 2 * (num % den) || (den == 2 * (num % den) && low % 2 == 1)
    (num / den : ℚ) < low + 1 ∧
      |((if upper then low + 1 else low : Nat) : ℚ) - num / den| ≤ 1 / 2 := by
  have den_pos : (0 : ℚ) < den := Nat.cast_pos.2 positive
  have split : (num : ℚ) / den = (num / den : Nat) + (num % den : Nat) / den := by
    rw [div_eq_iff den_pos.ne', add_mul, div_mul_cancel₀ _ den_pos.ne']
    exact_mod_cast (Nat.div_add_mod' num den).symm
  have rest : num % den < den := Nat.mod_lt _ positive
  have rest' : ((num % den : Nat) : ℚ) / den < 1 := (div_lt_one den_pos).2 (Nat.cast_lt.2 rest)
  have rest_nonneg : 0 ≤ ((num % den : Nat) : ℚ) / den := by positivity
  intro low upper
  refine ⟨by linarith, ?_⟩
  by_cases up : upper = true
  · have half : (1 / 2 : ℚ) ≤ (num % den : Nat) / den := by
      have most : den ≤ 2 * (num % den) := by
        simp only [upper, Bool.or_eq_true, Bool.and_eq_true, decide_eq_true_eq, beq_iff_eq] at up
        omega
      rw [div_le_div_iff₀ two_pos den_pos, one_mul, mul_comm]
      exact_mod_cast most
    rw [if_pos up, split]
    push_cast
    rw [abs_le]
    constructor <;> linarith
  · have half : ((num % den : Nat) : ℚ) / den ≤ 1 / 2 := by
      have least : 2 * (num % den) ≤ den := by
        simp only [upper, Bool.or_eq_true, Bool.and_eq_true, decide_eq_true_eq, beq_iff_eq] at up
        omega
      rw [div_le_div_iff₀ den_pos two_pos, one_mul, mul_comm]
      exact_mod_cast least
    rw [if_neg up, split, abs_le]
    constructor <;> linarith

/-- The neighbours are found by a division. -/
theorem neighbours_eq (u : Nat) (e : Int) : ∃ num den : Nat, 0 < den ∧
    (num / den : ℚ) * spacing e = u ∧ neighbours u e = (num / den,
      den < 2 * (num % den) || (den == 2 * (num % den) && num / den % 2 == 1)) := by
  have unit_pos := cast_one_pos
  unfold spacing neighbours
  generalize one = unit at *
  cases e with
  | ofNat a =>
    refine ⟨u, unit * Nat.pow 10 a, ?_, ?_, rfl⟩
    · exact Nat.mul_pos (Nat.cast_pos.1 unit_pos) (Nat.pow_pos (by decide))
    · rw [Int.ofNat_eq_natCast, zpow_natCast, Nat.pow_eq]
      push_cast
      field_simp
  | negSucc a =>
    refine ⟨u * Nat.pow 10 (a + 1), unit, Nat.cast_pos.1 unit_pos, ?_, rfl⟩
    rw [zpow_negSucc, Nat.pow_eq]
    push_cast
    field_simp

/-- One of the two neighbours is as near as half their distance. -/
theorem neighbours_near {u : Nat} {e : Int} {low : Nat} {upper : Bool}
    (found : neighbours u e = (low, upper)) : u < (low + 1) * spacing e ∧
      |(if upper then low + 1 else low : Nat) * spacing e - u| ≤ spacing e / 2 := by
  obtain ⟨num, den, positive, place, division⟩ := neighbours_eq u e
  have near := @abs_nearest_sub_le num den positive
  rw [division] at found
  obtain ⟨rfl, rfl⟩ := Prod.mk.inj found
  have step := spacing_pos e
  rw [← place]
  refine ⟨mul_lt_mul_of_pos_right near.1 step, ?_⟩
  rw [← sub_mul, abs_mul, abs_of_pos step]
  exact (mul_le_mul_of_nonneg_right near.2 step.le).trans_eq (by ring)

/-! ## The shortest decimal -/

theorem decimalOf?_eq {u count low : Nat} {upper : Bool} {e : Int}
    (leading : leadingExponent u - count + 1 = e) (found : neighbours u e = (low, upper)) :
    decimalOf? u count = ((if upper then [low + 1, low] else [low, low + 1]).find?
      fun n => ofDecimal false n e == ofUnits false u).map fun n => ⟨n, e⟩ := by
  unfold decimalOf?
  dsimp only
  rw [leading, found]

/-- Seventeen digits are enough. -/
theorem exists_decimalOf? {u : Nat} (positive : 0 < u) (representable : Representable u) :
    ∃ d, decimalOf? u 17 = some d := by
  generalize exponent : leadingExponent u - (17 : Nat) + 1 = e
  generalize found : neighbours u e = pair
  obtain ⟨low, upper⟩ := pair
  obtain ⟨below, near⟩ := neighbours_near found
  have leading : (10 ^ 16 * spacing e : ℚ) ≤ u := by
    have shift : e + (16 : Nat) = leadingExponent u := by omega
    rw [← spacing_add, shift]
    exact spacing_leadingExponent_le positive
  have digits : 10 ^ 16 ≤ low := by
    have many := lt_of_mul_lt_mul_right (leading.trans_lt below) (spacing_pos _).le
    exact Nat.le_of_lt_succ (by exact_mod_cast many)
  have reads : ofDecimal false (if upper then low + 1 else low) e = ofUnits false u := by
    rw [ofDecimal_of_near (by split <;> omega) representable near, ofUnits, dif_pos representable]
  rw [decimalOf?_eq exponent found, ← Option.isSome_iff_exists, Option.isSome_map,
    List.find?_isSome]
  refine ⟨if upper then low + 1 else low, ?_, beq_iff_eq.2 reads⟩
  cases upper <;> simp

/-- What is found reads back. -/
theorem ofDecimal_of_decimalOf? {u count : Nat} {d : Decimal}
    (found : decimalOf? u count = some d) : ofDecimal false d.digits d.exponent =
      ofUnits false u := by
  generalize exponent : leadingExponent u - count + 1 = e at found
  generalize pair : neighbours u e = p at found
  obtain ⟨low, upper⟩ := p
  rw [decimalOf?_eq exponent pair] at found
  obtain ⟨n, chosen, rfl⟩ := Option.map_eq_some_iff.1 found
  have readsBack := List.find?_some chosen
  exact eq_of_beq readsBack

theorem ofDecimal_found {u : Nat} (positive : 0 < u) (representable : Representable u) :
    ∃ d, ((List.range 17).findSome? fun k => decimalOf? u (k + 1)) = some d ∧
      ofDecimal false d.digits d.exponent = ofUnits false u := by
  obtain ⟨d, last⟩ := exists_decimalOf? positive representable
  cases found : (List.range 17).findSome? fun k => decimalOf? u (k + 1) with
  | none =>
    have missed := List.findSome?_eq_none_iff.1 found 16 (by simp)
    rw [last] at missed
    cases missed
  | some d' =>
    obtain ⟨k, -, at_k⟩ := List.exists_of_findSome?_eq_some found
    exact ⟨d', rfl, ofDecimal_of_decimalOf? at_k⟩

theorem units_dropZeros (fuel : Nat) (d : Decimal) : (d.dropZeros fuel).units = d.units := by
  fun_induction Decimal.dropZeros fuel d with
  | case1 => rfl
  | case2 fuel d more ih =>
    have shorter : d.digits = 10 * (d.digits / 10) := by
      simp only [Bool.and_eq_true, beq_iff_eq] at more
      omega
    calc Decimal.units _
        = Decimal.units ⟨d.digits / 10, d.exponent + 1⟩ := ih
      _ = (10 * (d.digits / 10) : Nat) * spacing d.exponent := by
        rw [units_eq, ← Nat.cast_one, spacing_add]
        push_cast
        ring
      _ = d.units := by rw [← shorter, ← units_eq]
  | case3 => rfl

/-- The shortest decimal reads back as the double. -/
theorem ofDecimal_shortest {u : Nat} (positive : 0 < u) (representable : Representable u)
    (negative : Bool) : ofDecimal negative (shortest u).digits (shortest u).exponent =
      .finite negative u representable := by
  obtain ⟨d, found, reads⟩ := ofDecimal_found positive representable
  have normal : (shortest u).units = d.units := by
    rw [shortest, found]
    exact units_dropZeros _ d
  have rounded : roundUnits d.units = u := by
    rw [ofDecimal_eq, ofUnits, ofUnits, dif_pos representable] at reads
    split at reads
    · exact (finite.inj reads).2
    · cases reads
  rw [ofDecimal_eq, normal, rounded, ofUnits, dif_pos representable]

end RecordCheck.Binary64
