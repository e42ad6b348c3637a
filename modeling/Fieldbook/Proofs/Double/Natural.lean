import Fieldbook.Proofs.Double.Whole

/-!
# Doubles that are natural numbers

Rounding leaves a magnitude alone (`Magnitude.nearestUnits_units`). So a double that is a natural number,
however large, is the double of that number, and is shown alike (`Double.plain_ofNat_of_toNat?`). The one
double that is taken for a source id without being one is `2 ^ 64`; the id that stands for it has it for its
double (`Double.plain_ofNat_sourceId`).
-/

namespace Fieldbook

namespace Magnitude

variable {m : Magnitude} {n : Nat}

/-- **A magnitude is nearest to itself.** -/
theorem nearestUnits_units (m : Magnitude) : nearestUnits m.units 1 = some m := by
  obtain ⟨hmost, -, hleast⟩ := m.canonical
  have hexponent : m.units.log2 - 52 = m.exponent := by
    rw [units, Nat.shiftLeft_eq]
    rcases hleast with hzero | hleast
    · -- Fifty-three bits or fewer, and none of them is rounded away.
      rw [hzero, Nat.pow_zero, Nat.mul_one]
      rcases Nat.eq_zero_or_pos m.mantissa with hnone | hpos
      · rw [hnone]
        rfl
      · have hlog : m.mantissa.log2 < 53 := (Nat.log2_lt (Nat.ne_of_gt hpos)).2 hmost
        omega
    · have hpos : 0 < m.mantissa := Nat.lt_of_lt_of_le (by decide) hleast
      have hlog : m.mantissa.log2 = 52 := (Nat.log2_eq_iff (Nat.ne_of_gt hpos)).2 ⟨hleast, hmost⟩
      rw [log2_mul_two_pow hpos, hlog, Nat.add_sub_cancel_left]
  have hmantissa : roundedQuotient m.units (1 <<< m.exponent) = m.mantissa := by
    rw [units, Nat.shiftLeft_eq, Nat.one_shiftLeft]
    exact roundedQuotient_mul _ (Nat.two_pow_pos _)
  rw [nearestUnits, Nat.div_one, hexponent, hmantissa, if_neg (Nat.ne_of_lt hmost)]
  exact dif_pos m.canonical

/-- A magnitude that is a natural number is nearest to that number. -/
theorem nearest_of_units (h : m.units = n * unitsPerOne) : nearest n 1 = some m := by
  rw [nearest, ← h, nearestUnits_units]

theorem units_of_isWhole (h : m.isWhole = true) : m.units = m.wholePart * unitsPerOne := by
  have hrest : m.units % unitsPerOne = 0 := beq_iff_eq.1 h
  exact (Nat.div_mul_cancel (Nat.dvd_of_mod_eq_zero hrest)).symm

end Magnitude

namespace Double

variable {x : Double} {n : Nat}

/-- **A double that is a natural number is shown like the double of that number.** Only the sign of zero may
tell them apart. -/
theorem plain_ofNat_of_toNat? (h : x.toNat? = some n) : (ofNat n).plain = x.plain := by
  cases x with
  | notANumber => cases h
  | infinite negative => cases h
  | finite negative m =>
    rw [toNat?] at h
    split at h
    · next hnatural =>
      obtain ⟨hwhole, hsign⟩ := Bool.and_eq_true_iff.1 hnatural
      cases h
      cases negative with
      | false => rw [ofNat, Magnitude.nearest_of_units (Magnitude.units_of_isWhole hwhole), signed]
      | true =>
        obtain rfl : m = .zero := by simpa using hsign
        decide +kernel
    · cases h

/-- The largest number of sixty-four bits has the double of the next one. -/
theorem ofNat_last : ofNat (2 ^ 64 - 1) = ofNat (2 ^ 64) := by
  decide +kernel

/-- **The source id that stands for a double is shown like it.** -/
theorem plain_ofNat_sourceId (h : x.toNat? = some n) (hn : n ≤ UInt64.size) :
    (ofNat (UInt64.ofNat (min n (UInt64.size - 1))).toNat).plain = x.plain := by
  have hsize : UInt64.size = 2 ^ 64 := rfl
  rw [← plain_ofNat_of_toNat? h]
  rw [hsize] at hn ⊢
  rcases Nat.lt_or_eq_of_le hn with hlt | rfl
  · rw [Nat.min_eq_left (by omega), UInt64.toNat_ofNat_of_lt' hlt]
  · rw [Nat.min_eq_right (by omega), UInt64.toNat_ofNat_of_lt' (by decide), ofNat_last]

end Double

end Fieldbook
