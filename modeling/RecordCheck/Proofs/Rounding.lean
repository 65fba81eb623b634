import Mathlib.Algebra.Order.Field.Power
import Mathlib.Algebra.Order.Floor.Semifield
import Mathlib.Data.Rat.Floor
import Mathlib.Tactic.FieldSimp
import Mathlib.Tactic.Linarith
import Mathlib.Tactic.Positivity
import RecordCheck.Number.Shortest

/-!
# Rounding to doubles

A quotient is rounded by its place on the number line only, not by its numerator and denominator,
and a decimal by the rational number that it stands for. What is nearer to a double than half a
grain is rounded to it, where the grain is the distance between doubles about that place.

## Main definitions

* `Binary64.grain`: the distance between doubles, in units.
* `Binary64.roundUnits`: a place in units, rounded.

## Main statements

* `Binary64.nearestUnits_eq`: quotients are rounded by their place.
* `Binary64.roundUnits_of_near`: what is near to a double is rounded to it.
* `Binary64.ofDecimal_eq`: decimals are rounded by the number that they stand for.
-/
set_option autoImplicit false

namespace RecordCheck.Binary64

/-- The distance between doubles about a place, both in units. -/
def grain (q : ℚ) : Nat := Nat.pow 2 (⌊q⌋₊.log2 - 52)

/-- The multiple of the grain next to a place, of two equally near the even one. -/
def roundUnits (q : ℚ) : Nat :=
  let kept := ⌊q / grain q⌋₊
  let rest := q / grain q - kept
  (if 1 / 2 < rest ∨ 1 / 2 = rest ∧ kept % 2 = 1 then kept + 1 else kept) * grain q

variable {q : ℚ}

theorem grain_pos (q : ℚ) : 0 < grain q := Nat.pow_pos (by decide)

/-- Quotients are rounded by their place. -/
theorem nearestUnits_eq {num den : Nat} (positive : 0 < den) :
    nearestUnits num den = roundUnits (num * one / den) := by
  unfold nearestUnits roundUnits
  rw [← Nat.cast_mul]
  generalize num * one = scaled
  dsimp only
  have floor : ⌊(scaled / den : ℚ)⌋₊ = scaled / den := Nat.floor_div_eq_div _ _
  have step : Nat.pow 2 ((scaled / den).log2 - 52) = grain (scaled / den) := by rw [grain, floor]
  have grain_pos := grain_pos (scaled / den)
  rw [step]
  generalize grain (scaled / den) = grain at *
  have moved : (scaled / den / grain : ℚ) = scaled / (den * grain : Nat) := by
    rw [Nat.cast_mul, div_div]
  rw [moved, Nat.floor_div_eq_div]
  have whole_pos : 0 < den * grain := Nat.mul_pos positive grain_pos
  generalize den * grain = whole at *
  have whole_pos' : (0 : ℚ) < whole := Nat.cast_pos.2 whole_pos
  have rest : (scaled / whole : ℚ) - (scaled / whole : Nat) = (scaled % whole : Nat) / whole := by
    have split : (scaled : ℚ) = whole * (scaled / whole : Nat) + (scaled % whole : Nat) := by
      rw [← Nat.cast_mul, ← Nat.cast_add, Nat.div_add_mod]
    rw [sub_eq_iff_eq_add, div_eq_iff whole_pos'.ne', add_mul, div_mul_cancel₀ _ whole_pos'.ne']
    linarith
  have above : (1 / 2 : ℚ) < (scaled % whole : Nat) / whole ↔ whole < 2 * (scaled % whole) := by
    rw [div_lt_div_iff₀ two_pos whole_pos', ← Nat.cast_lt (α := ℚ)]
    simp [mul_comm]
  have half : (1 / 2 : ℚ) = (scaled % whole : Nat) / whole ↔ whole = 2 * (scaled % whole) := by
    rw [div_eq_div_iff two_ne_zero whole_pos'.ne', ← Nat.cast_inj (R := ℚ)]
    simp [mul_comm]
  simp only [rest, above, half, Bool.or_eq_true, decide_eq_true_eq, Bool.and_eq_true, beq_iff_eq]

/-- What is near to a multiple of the grain is rounded to it. -/
theorem roundUnits_of_dvd (nonneg : 0 ≤ q) {u : Nat} (multiple : grain q ∣ u)
    (near : |q - u| < grain q / 2) : roundUnits q = u := by
  obtain ⟨m, rfl⟩ := multiple
  have grain_pos : (0 : ℚ) < grain q := Nat.cast_pos.2 (grain_pos q)
  obtain ⟨below, above⟩ := abs_lt.1 near
  unfold roundUnits
  generalize grain q = g at *
  push_cast at below above
  have scaled_nonneg : 0 ≤ q / g := div_nonneg nonneg grain_pos.le
  have low : (m - 1 / 2 : ℚ) < q / g := by
    rw [lt_div_iff₀ grain_pos]
    linarith
  have high : q / g < (m + 1 / 2 : ℚ) := by
    rw [div_lt_iff₀ grain_pos]
    linarith
  generalize q / g = r at *
  by_cases reached : (m : ℚ) ≤ r
  · have kept : ⌊r⌋₊ = m := (Nat.floor_eq_iff scaled_nonneg).2 ⟨reached, by linarith⟩
    have down : ¬ (1 / 2 < r - m ∨ 1 / 2 = r - m ∧ m % 2 = 1) := by
      rintro (up | ⟨half, -⟩) <;> linarith
    simp only [kept, if_neg down, Nat.mul_comm]
  · obtain ⟨k, rfl⟩ : ∃ k, m = k + 1 := Nat.exists_eq_succ_of_ne_zero fun zero => by
      subst zero
      exact reached (by simpa using scaled_nonneg)
    push_cast at low high reached
    have kept : ⌊r⌋₊ = k := (Nat.floor_eq_iff scaled_nonneg).2 ⟨by linarith, by linarith⟩
    have up : 1 / 2 < r - k := by linarith
    simp only [kept, if_pos (Or.inl up), Nat.mul_comm]

/-! ## Doubles are multiples of the grain -/

/-- No place has more than 53 significant binary digits before the grain. -/
theorem lt_grain (q : ℚ) : q < 2 ^ 53 * grain q := by
  have next : q < ⌊q⌋₊ + 1 := Nat.lt_floor_add_one q
  have log : ⌊q⌋₊ + 1 ≤ Nat.pow 2 (⌊q⌋₊.log2 + 1) := Nat.lt_log2_self
  have digits : Nat.pow 2 (⌊q⌋₊.log2 + 1) ≤ 2 ^ 53 * grain q := by
    simp only [grain, Nat.pow_eq, ← pow_add]
    exact Nat.pow_le_pow_right two_pos (by omega)
  calc q < ⌊q⌋₊ + 1 := next
    _ ≤ (2 ^ 53 * grain q : Nat) := by exact_mod_cast log.trans digits
    _ = 2 ^ 53 * grain q := by push_cast; rfl

/-- Below a power of two, doubles are as far from it as half the grain above it. -/
theorem add_le_of_representable {u k : Nat} (representable : Representable u)
    (less : u.log2 < k + 53) : u + 2 ^ k ≤ 2 ^ (k + 53) := by
  have below : u < 2 ^ (u.log2 + 1) := Nat.lt_log2_self
  rcases Nat.lt_or_eq_of_le (Nat.le_of_lt_succ less) with less | same
  · have bound : (2 : Nat) ^ (u.log2 + 1) ≤ 2 ^ (k + 52) := Nat.pow_le_pow_right two_pos less
    have small : (2 : Nat) ^ k ≤ 2 ^ (k + 52) := Nat.pow_le_pow_right two_pos (by omega)
    have double : (2 : Nat) ^ (k + 53) = 2 ^ (k + 52) * 2 := pow_succ 2 (k + 52)
    omega
  · have multiple : 2 ^ k ∣ u := by
      have grain := representable.2
      rwa [same, Nat.add_sub_cancel] at grain
    obtain ⟨m, rfl⟩ := multiple
    have few : m < 2 ^ 53 := by
      rw [same, Nat.add_assoc, pow_add] at below
      exact Nat.lt_of_mul_lt_mul_left below
    calc 2 ^ k * m + 2 ^ k = 2 ^ k * (m + 1) := by ring
      _ ≤ 2 ^ k * 2 ^ 53 := Nat.mul_le_mul_left _ few
      _ = 2 ^ (k + 53) := (pow_add 2 k 53).symm

/-- A double is a multiple of the grain of every place that is near to it. -/
theorem grain_dvd_of_near {u : Nat} (representable : Representable u)
    (near : |q - u| < grain q / 2) : grain q ∣ u := by
  by_cases fine : ⌊q⌋₊.log2 - 52 ≤ u.log2 - 52
  · exact (Nat.pow_dvd_pow 2 fine).trans representable.2
  · -- The place is above the next power of two, and so are not doubles below it near.
    exfalso
    obtain ⟨k, log⟩ : ∃ k, ⌊q⌋₊.log2 = k + 53 := ⟨⌊q⌋₊.log2 - 53, by omega⟩
    have far := add_le_of_representable representable (k := k) (by omega)
    have nonzero : ⌊q⌋₊ ≠ 0 := by
      rintro zero
      rw [zero] at log
      simp at log
    have power : 2 ^ (k + 53) ≤ ⌊q⌋₊ := log ▸ Nat.log2_self_le nonzero
    have floor : (⌊q⌋₊ : ℚ) ≤ q :=
      Nat.floor_le (Nat.pos_of_floor_pos (Nat.pos_of_ne_zero nonzero)).le
    have step : (grain q : ℚ) / 2 = 2 ^ k := by
      rw [grain, log, show k + 53 - 52 = k + 1 by omega, Nat.pow_eq, pow_succ]
      push_cast
      ring
    have far' : (u + 2 ^ k : ℚ) ≤ 2 ^ (k + 53) := by exact_mod_cast far
    have power' : (2 ^ (k + 53) : ℚ) ≤ ⌊q⌋₊ := by exact_mod_cast power
    have above := (abs_lt.1 near).2
    linarith

theorem roundUnits_of_near (nonneg : 0 ≤ q) {u : Nat} (representable : Representable u)
    (near : |q - u| < grain q / 2) : roundUnits q = u :=
  roundUnits_of_dvd nonneg (grain_dvd_of_near representable near) near

/-! ## Ends of the range -/

theorem roundUnits_of_lt_half (nonneg : 0 ≤ q) (small : q < 1 / 2) : roundUnits q = 0 := by
  have grain_ge : (1 : ℚ) ≤ grain q := Nat.one_le_cast.2 (grain_pos q)
  refine roundUnits_of_dvd nonneg (dvd_zero _) ?_
  rw [Nat.cast_zero, sub_zero, abs_of_nonneg nonneg]
  linarith

/-- Powers of two are not rounded past. -/
theorem le_roundUnits {k : Nat} (large : 52 ≤ k) (le : 2 ^ k ≤ q) : 2 ^ k ≤ roundUnits q := by
  have whole : 2 ^ k ≤ ⌊q⌋₊ := Nat.le_floor (by exact_mod_cast le)
  have nonzero : ⌊q⌋₊ ≠ 0 := (Nat.lt_of_lt_of_le (Nat.two_pow_pos k) whole).ne'
  have log : k ≤ ⌊q⌋₊.log2 := (Nat.le_log2 nonzero).2 whole
  have power : 2 ^ 52 * grain q = 2 ^ ⌊q⌋₊.log2 := by
    simp only [grain, Nat.pow_eq, ← pow_add]
    congr 1
    omega
  have kept : 2 ^ 52 ≤ ⌊q / grain q⌋₊ := by
    have grain_pos : (0 : ℚ) < grain q := Nat.cast_pos.2 (grain_pos q)
    have floor : (⌊q⌋₊ : ℚ) ≤ q := Nat.floor_le ((pow_pos two_pos k).le.trans le)
    have below : ((2 ^ 52 * grain q : Nat) : ℚ) ≤ ⌊q⌋₊ :=
      Nat.cast_le.2 (power ▸ Nat.log2_self_le nonzero)
    refine Nat.le_floor ((le_div_iff₀ grain_pos).2 ?_)
    push_cast at below ⊢
    linarith
  have rounded : ⌊q / grain q⌋₊ * grain q ≤ roundUnits q := by
    unfold roundUnits
    refine Nat.mul_le_mul_right _ ?_
    split <;> omega
  calc 2 ^ k ≤ 2 ^ ⌊q⌋₊.log2 := Nat.pow_le_pow_right two_pos log
    _ = 2 ^ 52 * grain q := power.symm
    _ ≤ ⌊q / grain q⌋₊ * grain q := Nat.mul_le_mul_right _ kept
    _ ≤ roundUnits q := rounded

end RecordCheck.Binary64

namespace RecordCheck

/-- The number that a decimal stands for, in units. -/
def Decimal.units (d : Decimal) : ℚ := d.digits * 10 ^ d.exponent * Binary64.one

namespace Binary64

/-! ## Decimals -/

/-- One, as a power of two with an exponent that nothing is computed with. -/
theorem exists_one_eq : ∃ k, k = 1074 ∧ one = Nat.pow 2 k := by
  unfold one
  exact ⟨1074, rfl, rfl⟩

theorem one_pos : 0 < one := by
  obtain ⟨k, -, unit⟩ := exists_one_eq
  exact unit ▸ Nat.two_pow_pos k

theorem cast_one_pos : (0 : ℚ) < one := Nat.cast_pos.2 one_pos

theorem two_pow_le_ten_pow (e : Nat) : (2 : ℚ) ^ (3 * e) ≤ 10 ^ e := by
  rw [pow_mul]
  exact pow_le_pow_left₀ (by positivity) (by norm_num) e

theorem units_nonneg (d : Decimal) : 0 ≤ d.units := by
  unfold Decimal.units
  exact mul_nonneg (by positivity) cast_one_pos.le

theorem units_zero (e : Int) : Decimal.units ⟨0, e⟩ = 0 := by
  rw [Decimal.units, Nat.cast_zero, zero_mul, zero_mul]

/-- What is sure to overflow does. -/
theorem ofUnits_of_large {n : Nat} {e : Int} (nonzero : n ≠ 0) (large : 1024 ≤ 3 * e)
    (negative : Bool) :
    ofUnits negative (roundUnits (Decimal.units ⟨n, e⟩)) = .infinite negative := by
  obtain ⟨k, known, unit⟩ := exists_one_eq
  obtain ⟨a, rfl⟩ := Int.eq_ofNat_of_zero_le (show 0 ≤ e by omega)
  have one_le : (1 : ℚ) ≤ n := Nat.one_le_cast.2 (Nat.pos_of_ne_zero nonzero)
  have reached : (2 : ℚ) ^ (1024 + k) ≤ Decimal.units ⟨n, a⟩ := by
    calc (2 : ℚ) ^ (1024 + k) ≤ 2 ^ (3 * a + k) := pow_le_pow_right₀ one_le_two (by omega)
      _ = 2 ^ (3 * a) * 2 ^ k := pow_add 2 (3 * a) k
      _ ≤ n * 10 ^ a * 2 ^ k := by
        gcongr
        nlinarith [two_pow_le_ten_pow a, pow_pos (show (0 : ℚ) < 10 by norm_num) a]
      _ = Decimal.units ⟨n, a⟩ := by
        rw [Decimal.units, unit, Nat.pow_eq, zpow_natCast]
        push_cast
        rfl
  have rounded := le_roundUnits (by omega) reached
  rw [ofUnits, dif_neg]
  rintro ⟨few, -⟩
  have log := (Nat.le_log2 (Nat.lt_of_lt_of_le (Nat.two_pow_pos _) rounded).ne').2 rounded
  omega

/-- What is sure to vanish does. -/
theorem roundUnits_of_small {n : Nat} {e : Int} (small : (n.log2 : Int) + 1 + 3 * e < -1076) :
    roundUnits (Decimal.units ⟨n, e⟩) = 0 := by
  obtain ⟨k, known, unit⟩ := exists_one_eq
  obtain ⟨a, rfl⟩ : ∃ a : Nat, e = -a := ⟨e.natAbs, by omega⟩
  have below : (n : ℚ) < 2 ^ (n.log2 + 1) := by exact_mod_cast Nat.lt_log2_self
  have power : (n * 2 ^ k * 2 : ℚ) < 10 ^ a := by
    calc (n * 2 ^ k * 2 : ℚ) = n * 2 ^ (k + 1) := by rw [pow_succ]; ring
      _ < 2 ^ (n.log2 + 1) * 2 ^ (k + 1) := by gcongr
      _ = 2 ^ (n.log2 + 1 + (k + 1)) := (pow_add 2 _ _).symm
      _ ≤ 2 ^ (3 * a) := pow_le_pow_right₀ one_le_two (by omega)
      _ ≤ 10 ^ a := two_pow_le_ten_pow a
  refine roundUnits_of_lt_half (units_nonneg _) ?_
  have ten_pos : (0 : ℚ) < 10 ^ a := by positivity
  have moved : Decimal.units ⟨n, -a⟩ = n * 2 ^ k / 10 ^ a := by
    rw [Decimal.units, unit, Nat.pow_eq, zpow_neg, zpow_natCast]
    push_cast
    ring
  rw [moved, div_lt_iff₀ ten_pos]
  linarith

/-- Decimals are rounded by the number that they stand for. -/
theorem ofDecimal_eq (negative : Bool) (n : Nat) (e : Int) :
    ofDecimal negative n e = ofUnits negative (roundUnits (Decimal.units ⟨n, e⟩)) := by
  unfold ofDecimal
  by_cases zero : n = 0
  · subst zero
    have rounded : roundUnits (Decimal.units ⟨0, e⟩) = 0 :=
      roundUnits_of_lt_half (units_nonneg _) (by rw [units_zero]; norm_num)
    rw [if_pos rfl, rounded]
    rfl
  by_cases large : 1024 ≤ 3 * e
  · rw [if_neg zero, if_pos large, ofUnits_of_large zero large]
  by_cases small : (n.log2 : Int) + 1 + 3 * e < -1076
  · rw [if_neg zero, if_neg large, if_pos small, roundUnits_of_small small]
    rfl
  rw [if_neg zero, if_neg large, if_neg small]
  cases e with
  | ofNat a =>
    have moved : Decimal.units ⟨n, .ofNat a⟩ = (n * Nat.pow 10 a : Nat) * one / (1 : Nat) := by
      rw [Decimal.units, Int.ofNat_eq_natCast, zpow_natCast, Nat.pow_eq]
      push_cast
      ring
    change nearest negative _ _ = _
    rw [nearest, nearestUnits_eq Nat.one_pos, moved]
  | negSucc a =>
    have positive : 0 < Nat.pow 10 (a + 1) := Nat.pow_pos (by decide)
    have moved : Decimal.units ⟨n, .negSucc a⟩ = n * one / Nat.pow 10 (a + 1) := by
      rw [Decimal.units, zpow_negSucc, Nat.pow_eq]
      push_cast
      ring
    change nearest negative _ _ = _
    rw [nearest, nearestUnits_eq positive, moved]

end Binary64

end RecordCheck
