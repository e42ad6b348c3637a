import Fieldbook.Proofs.Double.Shown

/-!
# Rounding to the nearest magnitude

Three facts about `Magnitude.nearestUnits`, from which everything else about rounded numbers follows:

* it gives the magnitude whose interval the number lies in (`Magnitude.nearest_of_admits`);
* it gives one for every number up to the largest magnitude (`Magnitude.exists_nearestUnits`);
* what it gives is away from the number by half a unit, or by `2 ^ -53` of the number, at most
  (`Magnitude.nearestUnits_error`).
-/

namespace Fieldbook

namespace Magnitude

variable {m : Magnitude} {num den k : Nat}

/-! ## Rounding to a whole number -/

/-- The whole quotient nearest to a number is not farther away than one half. -/
theorem roundedQuotient_near (num : Nat) (hden : 0 < den) :
    2 * roundedQuotient num den * den ≤ 2 * num + den ∧
      2 * num ≤ 2 * roundedQuotient num den * den + den := by
  have hsplit := Nat.div_add_mod' num den
  have hless := Nat.mod_lt num hden
  rw [roundedQuotient]
  split
  · rw [Nat.mul_assoc]
    omega
  · split
    · rw [Nat.mul_assoc, Nat.add_mul]
      omega
    · -- In the middle it is the even one of both.
      obtain heven | hodd := Nat.mod_two_eq_zero_or_one (num / den)
      · rw [heven, Nat.add_zero, Nat.mul_assoc]
        omega
      · rw [hodd, Nat.mul_assoc, Nat.add_mul]
        omega

/-- **The whole number that a quotient lies around is its rounded one**, if it is even or the quotient is
not in the middle between it and another. -/
theorem roundedQuotient_eq (hden : 0 < den) (hlow : 2 * k * den ≤ 2 * num + den)
    (hhigh : 2 * num ≤ 2 * k * den + den)
    (hodd : k % 2 = 1 → 2 * k * den ≠ 2 * num + den ∧ 2 * num ≠ 2 * k * den + den) :
    roundedQuotient num den = k := by
  have hsplit := Nat.div_add_mod' num den
  have hless := Nat.mod_lt num hden
  -- Either `k` is the whole part or the one after it.
  have hleast : num / den ≤ k := by
    refine Nat.le_of_not_lt fun hlt => ?_
    have hmul := Nat.mul_le_mul_right den hlt
    rw [Nat.succ_mul] at hmul
    rw [Nat.mul_assoc] at hhigh
    omega
  have hmost : k ≤ num / den + 1 := by
    refine Nat.le_of_not_lt fun hlt => ?_
    have hmul := Nat.mul_le_mul_right den hlt
    rw [Nat.succ_mul, Nat.add_mul] at hmul
    rw [Nat.mul_assoc] at hlow
    omega
  rw [Nat.mul_assoc] at hlow hhigh hodd
  obtain rfl | rfl : k = num / den ∨ k = num / den + 1 := by omega
  · rw [roundedQuotient]
    split
    · rfl
    · split <;> omega
  · rw [Nat.add_mul] at hlow hhigh hodd
    rw [roundedQuotient]
    split
    · omega
    · split <;> omega

/-! ## The nearest magnitude -/

theorem log2_sub_eq {q E : Nat} (hmost : q < 2 ^ (53 + E)) (hleast : E = 0 ∨ 2 ^ (52 + E) ≤ q) :
    q.log2 - 52 = E := by
  rcases hleast with rfl | hleast
  · rcases Nat.eq_zero_or_pos q with rfl | hpos
    · rfl
    · have hlog : q.log2 < 53 := (Nat.log2_lt (Nat.ne_of_gt hpos)).2 hmost
      omega
  · have hne : q ≠ 0 := Nat.ne_of_gt (Nat.lt_of_lt_of_le (Nat.two_pow_pos _) hleast)
    have hlog : q.log2 = 52 + E := (Nat.log2_eq_iff hne).2 ⟨hleast, by rwa [Nat.add_right_comm]⟩
    omega

/-- What lies between `2 ^ 52` and `2 ^ 53` times a power of two, or below it at the least exponent, is
rounded to a multiple of that power. -/
theorem nearestUnits_eq {E : Nat} (hden : 0 < den) (hmost : num < 2 ^ 53 * (2 ^ E * den))
    (hleast : E = 0 ∨ 2 ^ 52 * (2 ^ E * den) ≤ num) :
    nearestUnits num den =
      if roundedQuotient num (2 ^ E * den) = 2 ^ 53 then make? (2 ^ 52) (E + 1)
      else make? (roundedQuotient num (2 ^ E * den)) E := by
  have hlog : (num / den).log2 - 52 = E := by
    refine log2_sub_eq ?_ (hleast.imp_right fun hleast => ?_)
    · rwa [Nat.div_lt_iff_lt_mul hden, Nat.pow_add, Nat.mul_assoc]
    · rwa [Nat.le_div_iff_mul_le hden, Nat.pow_add, Nat.mul_assoc]
  rw [nearestUnits]
  simp only [hlog, Nat.shiftLeft_eq, Nat.one_mul, Nat.mul_comm den]

/-- What is just below a power of two has one bit more, and rounding carries into the power. -/
theorem nearestUnits_of_below {E : Nat} (hden : 0 < den) (hpower : m.mantissa = 2 ^ 52) (hE : m.exponent = E + 1)
    (hlow : (4 * 2 ^ 52 - 1) * (2 * (2 ^ E * den)) ≤ 4 * num) (hbelow : num < 2 ^ 52 * (2 * (2 ^ E * den))) :
    nearestUnits num den = some m := by
  have hscalePos : 0 < 2 ^ E * den := Nat.mul_pos (Nat.two_pow_pos E) hden
  generalize hs : 2 ^ E * den = scale at hlow hbelow hscalePos
  have hcarry : roundedQuotient num scale = 2 ^ 53 :=
    roundedQuotient_eq hscalePos (by omega) (by omega) (by omega)
  have hcanonical := m.canonical
  rw [hpower, hE] at hcanonical
  rw [nearestUnits_eq (E := E) hden (by omega) (.inr (by omega)), hs, if_pos hcarry]
  refine (dif_pos hcanonical).trans (congrArg some ?_)
  cases m
  cases hpower
  cases hE
  rfl

/-- A number that has the bits of a mantissa and is rounded to that of the magnitude is rounded to the magnitude. -/
theorem nearestUnits_of_rounded (hden : 0 < den)
    (hrounded : roundedQuotient num (2 ^ m.exponent * den) = m.mantissa)
    (hleast : m.exponent = 0 ∨ 2 ^ 52 * (2 ^ m.exponent * den) ≤ num) : nearestUnits num den = some m := by
  have hmantissa := m.canonical.1
  rw [Nat.one_shiftLeft] at hmantissa
  have hmost : num < 2 ^ 53 * (2 ^ m.exponent * den) := by
    have hunder := (roundedQuotient_near num (Nat.mul_pos (Nat.two_pow_pos m.exponent) hden)).2
    have hpos := Nat.mul_pos (Nat.two_pow_pos m.exponent) hden
    have hmul := Nat.mul_le_mul_right (2 ^ m.exponent * den) hmantissa
    rw [hrounded, Nat.mul_assoc] at hunder
    rw [Nat.succ_mul] at hmul
    omega
  rw [nearestUnits_eq hden hmost hleast, hrounded, if_neg (Nat.ne_of_lt hmantissa)]
  exact dif_pos m.canonical

/-- **What reads back as a magnitude is rounded to it.** -/
theorem nearest_of_admits (hden : 0 < den) (h : m.admits num den = true) : nearest num den = some m := by
  obtain ⟨hlow, hhigh, hodd⟩ := between_of_admits h
  have hnormal := m.canonical.2.2
  rw [Nat.one_shiftLeft] at hnormal
  rw [nearest]
  simp only [Nat.mul_assoc 4 num, Nat.mul_assoc _ (2 ^ m.exponent) den] at hlow hhigh hodd
  generalize num * unitsPerOne = value at hlow hhigh hodd ⊢
  by_cases hbelow : m.mantissa = 2 ^ 52 ∧ 0 < m.exponent ∧ value < 2 ^ 52 * (2 ^ m.exponent * den)
  · obtain ⟨hpower, hpos, hvalue⟩ := hbelow
    obtain ⟨E, hE⟩ : ∃ E, m.exponent = E + 1 := Nat.exists_eq_add_one.2 hpos
    have hscale : 2 ^ m.exponent * den = 2 * (2 ^ E * den) := by rw [hE, Nat.pow_succ]; ring
    rw [stepDown, if_pos ⟨hpower, hpos⟩, hpower, hscale] at hlow
    exact nearestUnits_of_below hden hpower hE hlow (hscale ▸ hvalue)
  · have hscalePos : 0 < 2 ^ m.exponent * den := Nat.mul_pos (Nat.two_pow_pos _) hden
    refine nearestUnits_of_rounded hden ?_ ?_
    all_goals generalize 2 ^ m.exponent * den = scale at hlow hhigh hodd hbelow hscalePos ⊢
    · rw [Nat.add_mul, Nat.mul_assoc 4] at hhigh
      -- The number is not below the bits of the mantissa by more than one half.
      have hnear : 2 * (m.mantissa * scale) ≤ 2 * value + scale := by
        by_cases hpower : m.mantissa = 2 ^ 52 ∧ 0 < m.exponent
        · have hvalue := Nat.le_of_not_lt fun hlt => hbelow ⟨hpower.1, hpower.2, hlt⟩
          rw [hpower.1]
          omega
        · rw [stepDown, if_neg hpower, Nat.sub_mul, Nat.mul_assoc 4] at hlow
          omega
      refine roundedQuotient_eq hscalePos (by rwa [Nat.mul_assoc]) (by rw [Nat.mul_assoc]; omega) fun h => ?_
      have hne := hodd h
      have hpower : ¬ (m.mantissa = 2 ^ 52 ∧ 0 < m.exponent) := by omega
      rw [stepDown, if_neg hpower, Nat.sub_mul, Nat.add_mul, Nat.mul_assoc 4] at hne
      rw [Nat.mul_assoc]
      have hpos := Nat.mul_le_mul_right scale (show 1 ≤ m.mantissa by omega)
      omega
    · refine Nat.eq_zero_or_pos m.exponent |>.imp_right fun hpos => ?_
      obtain hpower | hlarge := Nat.eq_or_lt_of_le (hnormal.resolve_left (Nat.ne_of_gt hpos))
      · exact Nat.le_of_not_lt fun hlt => hbelow ⟨hpower.symm, hpos, hlt⟩
      · have hmul := Nat.mul_le_mul_right scale hlarge
        rw [Nat.succ_mul] at hmul
        rw [stepDown, if_neg (by omega), Nat.sub_mul, Nat.mul_assoc 4] at hlow
        omega

/-! ## Its existence and its error -/

/-- The largest magnitude. -/
def largest : Magnitude := ⟨2 ^ 53 - 1, 2045, by decide⟩

theorem units_largest {last : Nat} (h : last = largest.exponent) :
    largest.units = (2 ^ 53 - 1) * 2 ^ last := by
  rw [units, Nat.shiftLeft_eq, ← h, largest]

/-- A number lies between `2 ^ 52` and `2 ^ 53` times the power of two that it is rounded with, or below at the
least exponent. -/
theorem between_of_log2 {E : Nat} (hden : 0 < den) (hE : (num / den).log2 - 52 = E) :
    num < 2 ^ 53 * (2 ^ E * den) ∧ (E = 0 ∨ 2 ^ 52 * (2 ^ E * den) ≤ num) := by
  refine ⟨?_, Nat.eq_zero_or_pos E |>.imp_right fun hpos => ?_⟩
  · have hlt : num / den < 2 ^ (53 + E) :=
      Nat.lt_of_lt_of_le Nat.lt_log2_self (Nat.pow_le_pow_right (by decide) (by omega))
    rwa [Nat.div_lt_iff_lt_mul hden, Nat.pow_add, Nat.mul_assoc] at hlt
  · have hne : num / den ≠ 0 := fun hzero => by
      rw [hzero, Nat.log2_zero] at hE
      omega
    have hle : 2 ^ (52 + E) ≤ num / den :=
      Nat.le_trans (Nat.pow_le_pow_right (by decide) (by omega)) (Nat.log2_self_le hne)
    rwa [Nat.le_div_iff_mul_le hden, Nat.pow_add, Nat.mul_assoc] at hle

/-- Up to the largest magnitude the exponent is one of a magnitude. -/
theorem exponent_le_largest {E : Nat} (hden : 0 < den) (h : num ≤ largest.units * den)
    (hleast : E = 0 ∨ 2 ^ 52 * (2 ^ E * den) ≤ num) : E ≤ largest.exponent := by
  obtain ⟨last, hlast⟩ : ∃ last, last = largest.exponent := ⟨_, rfl⟩
  rw [units_largest hlast, Nat.mul_assoc] at h
  rw [← hlast]
  refine Nat.le_of_not_lt fun hlt => ?_
  have hpow : 2 ^ (last + 1) * den ≤ 2 ^ E * den :=
    Nat.mul_le_mul_right den (Nat.pow_le_pow_right (by decide) hlt)
  rw [Nat.pow_succ, Nat.mul_right_comm] at hpow
  have hpos : 0 < 2 ^ last * den := Nat.mul_pos (Nat.two_pow_pos last) hden
  have hlarge := hleast.resolve_left (by omega)
  generalize 2 ^ last * den = a at h hpow hpos
  generalize 2 ^ E * den = b at hpow hlarge
  omega

/-- **The number is rounded to a multiple of its power of two**, also where it rounds up to the next power. -/
theorem exists_multiple {E : Nat} (hden : 0 < den) (h : num ≤ largest.units * den)
    (hmost : num < 2 ^ 53 * (2 ^ E * den)) (hleast : E = 0 ∨ 2 ^ 52 * (2 ^ E * den) ≤ num) :
    ∃ m, nearestUnits num den = some m ∧ m.units = roundedQuotient num (2 ^ E * den) * 2 ^ E := by
  have hrange := exponent_le_largest hden h hleast
  obtain ⟨last, hlast⟩ : ∃ last, last = largest.exponent := ⟨_, rfl⟩
  rw [units_largest hlast, Nat.mul_assoc] at h
  rw [← hlast] at hrange
  have hlast : last = 2045 := hlast
  obtain ⟨hover, hunder⟩ := roundedQuotient_near num (Nat.mul_pos (Nat.two_pow_pos E) hden)
  rw [nearestUnits_eq hden hmost hleast]
  generalize roundedQuotient num (2 ^ E * den) = k at hover hunder ⊢
  by_cases hcarry : k = 2 ^ 53
  · have hroom : E < last := by
      refine Nat.lt_of_le_of_ne hrange fun hfull => ?_
      rw [hcarry] at hover
      rw [← hfull] at h
      omega
    have hcanonical : 2 ^ 52 < 1 <<< 53 ∧ E + 1 ≤ 2045 ∧ (E + 1 = 0 ∨ 1 <<< 52 ≤ 2 ^ 52) :=
      ⟨by decide, by omega, .inr (by decide)⟩
    refine ⟨⟨2 ^ 52, E + 1, hcanonical⟩, (if_pos hcarry).trans (dif_pos hcanonical), ?_⟩
    rw [units, Nat.shiftLeft_eq, hcarry]
    dsimp only
    rw [Nat.pow_succ]
    ring
  · have hfits : k < 2 ^ 53 := by
      refine Nat.lt_of_le_of_ne (Nat.le_of_not_lt fun hlt => ?_) hcarry
      have hmul := Nat.mul_le_mul_right (2 ^ E * den) hlt
      rw [Nat.succ_mul] at hmul
      rw [Nat.mul_assoc] at hover
      omega
    have hnormal : E = 0 ∨ 2 ^ 52 ≤ k := by
      refine hleast.imp_right fun hleast => Nat.le_of_not_lt fun hlt => ?_
      have hmul := Nat.mul_le_mul_right (2 ^ E * den) hlt
      rw [Nat.succ_mul] at hmul
      rw [Nat.mul_assoc] at hunder
      omega
    have hcanonical : k < 1 <<< 53 ∧ E ≤ 2045 ∧ (E = 0 ∨ 1 <<< 52 ≤ k) := by
      simp only [Nat.one_shiftLeft]
      exact ⟨hfits, by omega, hnormal⟩
    exact ⟨⟨k, E, hcanonical⟩, (if_neg hcarry).trans (dif_pos hcanonical), Nat.shiftLeft_eq k E⟩

/-- **Up to the largest magnitude every number is rounded to one**, which is away from it by half of a power
of two at most. The power is one unit, or `2 ^ -52` of the number or less. -/
theorem exists_nearestUnits (hden : 0 < den) (h : num ≤ largest.units * den) :
    ∃ m E, nearestUnits num den = some m ∧
      2 * m.units * den ≤ 2 * num + 2 ^ E * den ∧ 2 * num ≤ 2 * m.units * den + 2 ^ E * den ∧
      (E = 0 ∨ 2 ^ 52 * (2 ^ E * den) ≤ num) := by
  obtain ⟨E, hE⟩ : ∃ E, (num / den).log2 - 52 = E := ⟨_, rfl⟩
  obtain ⟨hmost, hleast⟩ := between_of_log2 hden hE
  obtain ⟨m, hm, hunits⟩ := exists_multiple hden h hmost hleast
  obtain ⟨hover, hunder⟩ := roundedQuotient_near num (Nat.mul_pos (Nat.two_pow_pos E) hden)
  have hscale : 2 * m.units * den = 2 * roundedQuotient num (2 ^ E * den) * (2 ^ E * den) := by
    rw [hunits]
    ring
  exact ⟨m, E, hm, hscale ▸ hover, hscale ▸ hunder, hleast⟩

/-- **The rounding error**, in units: half of one at most, or `2 ^ -53` of the number. -/
theorem nearestUnits_error (hden : 0 < den) {value : ℚ} (hvalue : value = num / den)
    (h : value ≤ largest.units) :
    ∃ m, nearestUnits num den = some m ∧ |(m.units : ℚ) - value| ≤ max (1 / 2) (value / 2 ^ 53) := by
  have hdenPos : (0 : ℚ) < den := Nat.cast_pos.2 hden
  have hnum : (num : ℚ) = value * den := by rw [hvalue, div_mul_cancel₀ _ (ne_of_gt hdenPos)]
  have hle : num ≤ largest.units * den := by
    rw [hvalue, div_le_iff₀ hdenPos] at h
    exact_mod_cast h
  obtain ⟨m, E, hm, hover, hunder, hleast⟩ := exists_nearestUnits hden hle
  refine ⟨m, hm, ?_⟩
  have hnear : |(m.units : ℚ) - value| ≤ 2 ^ E / 2 := by
    have hover : (2 * m.units * den : ℚ) ≤ 2 * num + 2 ^ E * den := by exact_mod_cast hover
    have hunder : (2 * num : ℚ) ≤ 2 * m.units * den + 2 ^ E * den := by exact_mod_cast hunder
    rw [hnum] at hover hunder
    rw [abs_le]
    constructor
    · refine le_of_mul_le_mul_right ?_ hdenPos
      linarith
    · refine le_of_mul_le_mul_right ?_ hdenPos
      linarith
  rcases hleast with rfl | hleast
  · rw [pow_zero] at hnear
    exact le_max_of_le_left hnear
  · have hpower : (2 : ℚ) ^ 52 * 2 ^ E ≤ value := by
      have hleast : ((2 : ℚ) ^ 52 * (2 ^ E * den)) ≤ num := by exact_mod_cast hleast
      rw [hnum, ← mul_assoc] at hleast
      exact le_of_mul_le_mul_right hleast hdenPos
    refine le_max_of_le_right (hnear.trans ?_)
    rw [le_div_iff₀ (by positivity)]
    linarith

end Magnitude

end Fieldbook
