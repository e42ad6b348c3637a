import Fieldbook.Proofs.Double.Rounding

/-!
# The shortest decimal of a magnitude

The search for the shortest decimal goes down from one power of ten to the next, and always finds one: a
grid that is finer than half of the last bit (`Magnitude.Fine`) has a point above the magnitude that still
reads back as it (`Magnitude.onGrid?_of_fine`), and the last of the grids that are tried is that fine
(`Magnitude.fine_tenAbove`).

The grid before the one where it is found was not that fine (`Magnitude.shortest_found`). So the decimal has a
small coefficient (`Magnitude.coefficient_shortest_lt`) and no power of ten that is out of the range of
doubles (`Magnitude.le_exponent_shortest`, `Magnitude.exponent_shortest_le`).
-/

namespace Fieldbook

namespace Decimal

theorem ratio_eq_mul (d : Decimal) :
    d.ratio = (d.coefficient * (ratio ⟨1, d.exponent⟩).1, (ratio ⟨1, d.exponent⟩).2) := by
  rw [ratio, ratio]
  dsimp only
  split
  · rw [Nat.one_mul]
  · rw [Nat.mul_one]

/-- The quotient that a decimal is. -/
theorem cast_ratio (d : Decimal) :
    (d.ratio.1 : ℚ) / d.ratio.2 = d.coefficient * (10 : ℚ) ^ d.exponent := by
  have htenTo : ∀ k, (tenTo k : ℚ) = (10 : ℚ) ^ k := fun k => Nat.cast_pow 10 k
  rw [ratio]
  split
  · next h =>
    obtain ⟨k, hk⟩ := Int.eq_ofNat_of_zero_le h
    rw [hk]
    simp [htenTo]
  · next h =>
    obtain ⟨k, hk⟩ := Int.eq_ofNat_of_zero_le (a := -d.exponent) (by omega)
    rw [hk, ← neg_neg d.exponent, hk]
    simp [htenTo, div_eq_mul_inv]

end Decimal

namespace Magnitude

open Decimal

variable {x : Magnitude} {num den : Nat} {e : Int}

/-! ## Grids that are fine enough -/

/-- The power of ten is less than half of the last bit. -/
def Fine (x : Magnitude) (e : Int) : Prop :=
  2 * ((ratio ⟨1, e⟩).1 * unitsPerOne) < 2 ^ x.exponent * (ratio ⟨1, e⟩).2

theorem fine_iff : x.Fine e ↔ 2 * ((10 : ℚ) ^ e * unitsPerOne) < 2 ^ x.exponent := by
  have hcast := cast_ratio ⟨1, e⟩
  have hpos : (0 : ℚ) < (ratio ⟨1, e⟩).2 := Nat.cast_pos.2 (ratio_pos _)
  rw [Nat.cast_one, one_mul] at hcast
  rw [← hcast, Fine, ← Nat.cast_lt (α := ℚ)]
  push_cast
  rw [div_mul_eq_mul_div, ← mul_div_assoc, div_lt_iff₀ hpos]

/-- **On a fine grid there is something that reads back**, namely the next point above the magnitude. -/
theorem onGrid?_of_fine (h : x.Fine e) (tie : TieRule) : x.onGrid? tie e ≠ none := by
  rw [Fine, Nat.mul_comm _ unitsPerOne] at h
  have hdenPos : 0 < unitsPerOne * (ratio ⟨1, e⟩).1 := by
    refine Nat.mul_pos unitsPerOne_pos ?_
    rw [ratio]
    split
    · exact Nat.mul_pos Nat.one_pos (Nat.pow_pos (by decide))
    · exact Nat.one_pos
  have hsplit := Nat.div_add_mod' (x.units * (ratio ⟨1, e⟩).2) (unitsPerOne * (ratio ⟨1, e⟩).1)
  have hless := Nat.mod_lt (x.units * (ratio ⟨1, e⟩).2) hdenPos
  refine onGrid?_ne_none (.inr rfl) ?_
  generalize x.units * (ratio ⟨1, e⟩).2 / (unitsPerOne * (ratio ⟨1, e⟩).1) = c at hsplit ⊢
  have hvalue : (c + 1) * (ratio ⟨1, e⟩).1 * unitsPerOne =
      c * (unitsPerOne * (ratio ⟨1, e⟩).1) + unitsPerOne * (ratio ⟨1, e⟩).1 := by ring
  refine admits_of_le ?_ ?_
  · rw [hvalue]
    omega
  · rw [hvalue]
    omega

/-! ## The range of the search -/

/-- How the powers of ten of the search compare with the magnitudes whose first bit is the same: the last
one is smaller by far, and the one before the first is larger. -/
theorem tenAbove_range :
    ∀ k : Nat, k < 2098 → 2 * ((ratio ⟨1, ((k : Int) - 1074) * 30103 / 100000 - 21⟩).1 * unitsPerOne) * 2 ^ 52 <
        2 ^ k * (ratio ⟨1, ((k : Int) - 1074) * 30103 / 100000 - 21⟩).2 ∧
      2 ^ k * (ratio ⟨1, ((k : Int) - 1074) * 30103 / 100000 + 3⟩).2 ≤
        2 * ((ratio ⟨1, ((k : Int) - 1074) * 30103 / 100000 + 3⟩).1 * unitsPerOne) := by
  decide +kernel

theorem log2_units (h : x ≠ .zero) : x.exponent ≤ x.units.log2 ∧ x.units.log2 ≤ 52 + x.exponent := by
  have hpos := units_pos h
  have hmantissa := x.canonical.1
  rw [Nat.one_shiftLeft] at hmantissa
  constructor
  · refine (Nat.le_log2 (Nat.ne_of_gt hpos)).2 ?_
    rw [units, Nat.shiftLeft_eq]
    exact Nat.le_mul_of_pos_left _ (mantissa_pos h)
  · refine Nat.le_of_lt_succ ((Nat.log2_lt (Nat.ne_of_gt hpos)).2 ?_)
    rw [units, Nat.shiftLeft_eq, show (52 + x.exponent).succ = 53 + x.exponent by omega, Nat.pow_add]
    exact Nat.mul_lt_mul_of_pos_right hmantissa (Nat.two_pow_pos _)

/-- **The last grid that is tried is fine enough**, and one above the first is not. -/
theorem fine_tenAbove (h : x ≠ .zero) : x.Fine (x.tenAbove - 23) ∧ ¬ x.Fine (x.tenAbove + 1) := by
  obtain ⟨hleast, hmost⟩ := log2_units h
  have hexponent := x.canonical.2.1
  have hlast : x.tenAbove - 23 = ((x.units.log2 : Int) - 1074) * 30103 / 100000 - 21 := by
    rw [tenAbove]
    omega
  have hfirst : x.tenAbove + 1 = ((x.units.log2 : Int) - 1074) * 30103 / 100000 + 3 := by
    rw [tenAbove]
    omega
  obtain ⟨hsmall, hlarge⟩ := tenAbove_range x.units.log2 (by omega)
  rw [← hlast] at hsmall
  rw [← hfirst] at hlarge
  constructor
  · have hpow : 2 ^ x.units.log2 ≤ 2 ^ x.exponent * 2 ^ 52 := by
      rw [← Nat.pow_add, Nat.add_comm]
      exact Nat.pow_le_pow_right (by decide) hmost
    have hmul := Nat.mul_le_mul_right (ratio ⟨1, x.tenAbove - 23⟩).2 hpow
    rw [Nat.mul_right_comm] at hmul
    exact Nat.lt_of_mul_lt_mul_right (Nat.lt_of_lt_of_le hsmall hmul)
  · have hpow : 2 ^ x.exponent ≤ 2 ^ x.units.log2 := Nat.pow_le_pow_right (by decide) hleast
    exact Nat.not_lt.2 (Nat.le_trans (Nat.mul_le_mul_right _ hpow) hlarge)

/-! ## The shortest decimal -/

/-- What reads back is not farther away from the magnitude than half of the last bit. -/
theorem near_of_admits (hden : 0 < den) (h : x.admits num den = true) :
    |(num : ℚ) / den * unitsPerOne - x.units| ≤ 2 ^ x.exponent / 2 := by
  obtain ⟨hlow, hhigh, -⟩ := between_of_admits h
  have hdenPos : (0 : ℚ) < den := Nat.cast_pos.2 hden
  have hdown : 4 * x.mantissa ≤ 4 * x.mantissa - x.stepDown + 2 := by
    rw [stepDown]
    split <;> omega
  have hunits : (x.units : ℚ) = x.mantissa * 2 ^ x.exponent := by
    rw [units, Nat.shiftLeft_eq]
    push_cast
    rfl
  have hleast : (4 * x.mantissa - 2 : ℚ) * 2 ^ x.exponent * den ≤ 4 * num * unitsPerOne := by
    have hmantissa : (4 * x.mantissa : ℚ) ≤ (4 * x.mantissa - x.stepDown : ℕ) + 2 := by exact_mod_cast hdown
    calc (4 * x.mantissa - 2 : ℚ) * 2 ^ x.exponent * den
        ≤ (4 * x.mantissa - x.stepDown : ℕ) * 2 ^ x.exponent * den := by
          gcongr
          linarith
      _ ≤ 4 * num * unitsPerOne := by exact_mod_cast hlow
  have hmost : (4 * num * unitsPerOne : ℚ) ≤ (4 * x.mantissa + 2) * 2 ^ x.exponent * den := by
    exact_mod_cast hhigh
  have hvalue : (num : ℚ) = num / den * den := (div_mul_cancel₀ _ (ne_of_gt hdenPos)).symm
  generalize (num : ℚ) / den = value at hvalue ⊢
  rw [hvalue] at hleast hmost
  rw [hunits, abs_le]
  constructor
  · refine le_of_mul_le_mul_right ?_ hdenPos
    linarith
  · refine le_of_mul_le_mul_right ?_ hdenPos
    linarith

/-- **The shortest decimal reads back**, and the power of ten above its own is not less than half of the last
bit. -/
theorem shortest_found (h : x ≠ .zero) (tie : TieRule) :
    x.admits (x.shortest tie).ratio.1 (x.shortest tie).ratio.2 = true ∧
      ¬ x.Fine ((x.shortest tie).exponent + 1) := by
  obtain ⟨hfine, hcoarse⟩ := fine_tenAbove h
  have hfirst : x.tenAbove - 23 ≤ x.tenAbove := by omega
  have hcount : x.tenAbove < x.tenAbove - 23 + (24 : Nat) := by omega
  obtain ⟨d, hd, -, -, hfound, hbefore⟩ :=
    searchGrids_found tie hfirst hcount (onGrid?_of_fine hfine tie)
  rw [shortest, hd]
  refine ⟨?_, fun hd => ?_⟩
  · rw [ratio_eq_mul]
    exact (admits_of_onGrid? hfound).2
  · rcases hbefore with hfirst | hnone
    · exact hcoarse (hfirst ▸ hd)
    · exact onGrid?_of_fine hd tie hnone

/-- In units, the power of ten of the shortest decimal is not less than one twentieth of the last bit, and the
decimal itself less than `2 ^ 53` times the last bit. -/
theorem shortest_grid (h : x ≠ .zero) (tie : TieRule) :
    (2 : ℚ) ^ x.exponent ≤ 20 * ((10 : ℚ) ^ (x.shortest tie).exponent * unitsPerOne) ∧
      (x.shortest tie).coefficient * ((10 : ℚ) ^ (x.shortest tie).exponent * unitsPerOne) ≤
        2 ^ 53 * 2 ^ x.exponent := by
  obtain ⟨hadmits, hcoarse⟩ := shortest_found h tie
  generalize x.shortest tie = d at hadmits hcoarse ⊢
  have hnear := (abs_le.1 (near_of_admits (ratio_pos d) hadmits)).2
  have hmantissa : (x.mantissa : ℚ) + 1 ≤ 2 ^ 53 := by
    have hlt := x.canonical.1
    rw [Nat.one_shiftLeft] at hlt
    exact_mod_cast hlt
  have hmul := mul_le_mul_of_nonneg_right hmantissa (show (0 : ℚ) ≤ 2 ^ x.exponent by positivity)
  have hunits : (x.units : ℚ) = x.mantissa * 2 ^ x.exponent := by
    rw [units, Nat.shiftLeft_eq]
    push_cast
    rfl
  rw [fine_iff, not_lt, zpow_add₀ (by norm_num), zpow_one, mul_right_comm] at hcoarse
  rw [cast_ratio, hunits, mul_assoc] at hnear
  have hpos : (0 : ℚ) < 2 ^ x.exponent := by positivity
  generalize (2 : ℚ) ^ x.exponent = last at hnear hcoarse hmul hpos ⊢
  constructor <;> linarith

theorem coefficient_shortest_lt (h : x ≠ .zero) (tie : TieRule) : (x.shortest tie).coefficient < 2 ^ 58 := by
  obtain ⟨hcoarse, hvalue⟩ := shortest_grid h tie
  have hgrid : (0 : ℚ) < (10 : ℚ) ^ (x.shortest tie).exponent * unitsPerOne :=
    mul_pos (by positivity) (Nat.cast_pos.2 unitsPerOne_pos)
  generalize (10 : ℚ) ^ (x.shortest tie).exponent * unitsPerOne = grid at hcoarse hvalue hgrid
  have hfew : ((x.shortest tie).coefficient : ℚ) ≤ 2 ^ 53 * 20 := by
    refine le_of_mul_le_mul_right (hvalue.trans ?_) hgrid
    linarith
  have hfew : (x.shortest tie).coefficient ≤ 2 ^ 53 * 20 := by exact_mod_cast hfew
  omega

/-- A smaller power of ten is no twentieth of the last bit of any magnitude. -/
theorem le_exponent_shortest (h : x ≠ .zero) (tie : TieRule) : -324 ≤ (x.shortest tie).exponent := by
  by_contra hlow
  obtain ⟨hcoarse, -⟩ := shortest_grid h tie
  have hlast : (1 : ℚ) ≤ 2 ^ x.exponent := one_le_pow₀ (by norm_num)
  have hpow : (10 : ℚ) ^ (x.shortest tie).exponent ≤ 10 ^ (-(325 : ℕ) : Int) :=
    zpow_le_zpow_right₀ (by norm_num) (by omega)
  have hsmall : ((20 * unitsPerOne : ℕ) : ℚ) < ((10 ^ 325 : ℕ) : ℚ) := Nat.cast_lt.2 (by decide +kernel)
  have hmul := mul_le_mul_of_nonneg_right hpow (Nat.cast_nonneg (α := ℚ) unitsPerOne)
  have hpos : (0 : ℚ) < 10 ^ 325 := by positivity
  rw [zpow_neg, zpow_natCast, ← div_eq_inv_mul] at hmul
  rw [Nat.cast_mul, Nat.cast_pow, Nat.cast_ofNat, Nat.cast_ofNat] at hsmall
  generalize (10 : ℚ) ^ 325 = large at hmul hsmall hpos
  have hle : (1 : ℚ) ≤ 20 * unitsPerOne / large := by
    rw [mul_div_assoc]
    linarith
  rw [le_div_iff₀ hpos, one_mul] at hle
  exact absurd hle (not_le.2 hsmall)

/-- A larger power of ten is beyond every magnitude. -/
theorem exponent_shortest_le (h : x ≠ .zero) (tie : TieRule) : (x.shortest tie).exponent ≤ 308 := by
  by_contra hhigh
  obtain ⟨-, hvalue⟩ := shortest_grid h tie
  have hone : (1 : ℚ) ≤ (x.shortest tie).coefficient := by exact_mod_cast coefficient_shortest h tie
  have hpow : (10 : ℚ) ^ ((309 : ℕ) : Int) ≤ 10 ^ (x.shortest tie).exponent :=
    zpow_le_zpow_right₀ (by norm_num) (by omega)
  have hlast : (2 : ℚ) ^ x.exponent ≤ 2 ^ 2045 := pow_le_pow_right₀ (by norm_num) x.canonical.2.1
  have hlarge : ((2 ^ 53 * 2 ^ 2045 : ℕ) : ℚ) < ((10 ^ 309 * unitsPerOne : ℕ) : ℚ) :=
    Nat.cast_lt.2 (by decide +kernel)
  have hunit : (0 : ℚ) < unitsPerOne := Nat.cast_pos.2 unitsPerOne_pos
  rw [zpow_natCast] at hpow
  rw [Nat.cast_mul, Nat.cast_mul, Nat.cast_pow, Nat.cast_pow, Nat.cast_pow, Nat.cast_ofNat,
    Nat.cast_ofNat] at hlarge
  refine absurd hlarge (not_lt.2 ?_)
  calc (10 : ℚ) ^ 309 * unitsPerOne
      ≤ 10 ^ (x.shortest tie).exponent * unitsPerOne := mul_le_mul_of_nonneg_right hpow hunit.le
    _ ≤ (x.shortest tie).coefficient * (10 ^ (x.shortest tie).exponent * unitsPerOne) :=
      le_mul_of_one_le_left (mul_pos (by positivity) hunit).le hone
    _ ≤ 2 ^ 53 * 2 ^ x.exponent := hvalue
    _ ≤ 2 ^ 53 * 2 ^ 2045 := mul_le_mul_of_nonneg_left hlast (by positivity)

end Magnitude

end Fieldbook
