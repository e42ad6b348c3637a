import Fieldbook.Proofs.Json.Rereading

/-!
# The error of the quick method

The quick method rounds three times: the digits to a magnitude, the power of ten to another one, and the product
or quotient of both to the result. Each of the first two is right but for one part in `2 ^ 53` (`Within`), so
what is rounded last is right but for a little more than one part in `2 ^ 52` (`Numeral.exists_scale`). Below the
range of the powers of ten there is one step more (`Numeral.scale_of_lt`).

* A magnitude is always read back, and near to what it was (`Magnitude.reread?_near`).
* It is read back as it was when neither the digits nor the power of ten are rounded
  (`Magnitude.reread?_eq_self`).
-/

namespace Fieldbook

/-! ## Relative errors -/

/-- The number `a` is `b` but for an error of `ε` of it. -/
def Within (ε a b : ℚ) : Prop := (1 - ε) * b ≤ a ∧ a ≤ (1 + ε) * b

/-- The largest relative error of a rounded number. -/
def roundoff : ℚ := 1 / 2 ^ 53

/-- What becomes of it when two rounded numbers are multiplied or divided. -/
def roundoffs : ℚ := 2 * roundoff + 4 * roundoff ^ 2

namespace Within

variable {a b c d : ℚ}

theorem mul (hab : Within roundoff a b) (hcd : Within roundoff c d) (hb : 0 ≤ b) (hd : 0 ≤ d) :
    Within roundoffs (a * c) (b * d) := by
  have hbd := mul_nonneg hb hd
  have ha : 0 ≤ a := le_trans (mul_nonneg (by norm_num [roundoff]) hb) hab.1
  have hlow : (1 - roundoff) * b * ((1 - roundoff) * d) ≤ a * c :=
    mul_le_mul hab.1 hcd.1 (mul_nonneg (by norm_num [roundoff]) hd) ha
  have hhigh : a * c ≤ (1 + roundoff) * b * ((1 + roundoff) * d) := by
    refine mul_le_mul hab.2 hcd.2 ?_ (mul_nonneg (by norm_num [roundoff]) hb)
    exact le_trans (mul_nonneg (by norm_num [roundoff]) hd) hcd.1
  have hleast : (1 - roundoffs) * (b * d) ≤ (1 - roundoff) * (1 - roundoff) * (b * d) :=
    mul_le_mul_of_nonneg_right (by norm_num [roundoffs, roundoff]) hbd
  have hmost : (1 + roundoff) * (1 + roundoff) * (b * d) ≤ (1 + roundoffs) * (b * d) :=
    mul_le_mul_of_nonneg_right (by norm_num [roundoffs, roundoff]) hbd
  exact ⟨hleast.trans (by linarith), le_trans (by linarith) hmost⟩

theorem div (hab : Within roundoff a b) (hcd : Within roundoff c d) (hb : 0 ≤ b) (hd : 0 < d) :
    Within roundoffs (a / c) (b / d) := by
  have hc : 0 < c := lt_of_lt_of_le (mul_pos (by norm_num [roundoff]) hd) hcd.1
  have hbd := div_nonneg hb hd.le
  constructor
  · rw [le_div_iff₀ hc]
    calc (1 - roundoffs) * (b / d) * c
        ≤ (1 - roundoffs) * (b / d) * ((1 + roundoff) * d) :=
          mul_le_mul_of_nonneg_left hcd.2 (mul_nonneg (by norm_num [roundoffs, roundoff]) hbd)
      _ = (1 - roundoffs) * (1 + roundoff) * b := by field_simp
      _ ≤ (1 - roundoff) * b := mul_le_mul_of_nonneg_right (by norm_num [roundoffs, roundoff]) hb
      _ ≤ a := hab.1
  · rw [div_le_iff₀ hc]
    calc a ≤ (1 + roundoff) * b := hab.2
      _ ≤ (1 + roundoffs) * (1 - roundoff) * b :=
          mul_le_mul_of_nonneg_right (by norm_num [roundoffs, roundoff]) hb
      _ = (1 + roundoffs) * (b / d) * ((1 - roundoff) * d) := by field_simp
      _ ≤ (1 + roundoffs) * (b / d) * c :=
          mul_le_mul_of_nonneg_left hcd.1 (mul_nonneg (by norm_num [roundoffs, roundoff]) hbd)

end Within

namespace Magnitude

variable {x y : Magnitude} {value : ℚ}

theorem unitsPerOne_cast_pos : (0 : ℚ) < unitsPerOne := Nat.cast_pos.2 unitsPerOne_pos

/-- **A whole number up to `10 ^ 308` is rounded with a small relative error.** -/
theorem exists_nearest {n : Nat} (hpos : 0 < n) (h : n ≤ Decimal.tenTo 308) :
    ∃ m, nearest n 1 = some m ∧ Within roundoff m.units (n * unitsPerOne) := by
  have hone : (1 : ℚ) ≤ n := by exact_mod_cast hpos
  have hrange : (n * unitsPerOne : ℚ) ≤ largest.units := by
    have hlargest : Decimal.tenTo 308 * unitsPerOne ≤ largest.units := by decide +kernel
    have hmul := Nat.le_trans (Nat.mul_le_mul_right unitsPerOne h) hlargest
    exact_mod_cast hmul
  have hvalue : (n * unitsPerOne : ℚ) = (n * unitsPerOne : ℕ) / (1 : ℕ) := by
    push_cast
    rw [div_one]
  obtain ⟨m, hm, herror⟩ := nearestUnits_error Nat.one_pos hvalue hrange
  refine ⟨m, hm, ?_⟩
  have hunit : (2 : ℚ) ^ 53 ≤ unitsPerOne := by
    have hle : 2 ^ 53 ≤ unitsPerOne := by decide +kernel
    exact_mod_cast hle
  have hlarge : (1 / 2 : ℚ) ≤ n * unitsPerOne / 2 ^ 53 := by
    rw [le_div_iff₀ (by positivity)]
    have hmul := mul_le_mul_of_nonneg_right hone unitsPerOne_cast_pos.le
    linarith
  rw [max_eq_right hlarge, abs_le] at herror
  rw [Within, roundoff]
  constructor <;> linarith

theorem exists_times (hvalue : value = x.units * y.units / unitsPerOne) (h : value ≤ largest.units) :
    ∃ m, x.times y = some m ∧ |(m.units : ℚ) - value| ≤ max (1 / 2) (value / 2 ^ 53) := by
  have hunit := unitsPerOne_cast_pos
  refine nearestUnits_error (Nat.mul_pos unitsPerOne_pos unitsPerOne_pos) ?_ h
  rw [hvalue]
  push_cast
  rw [mul_div_mul_right _ _ (ne_of_gt hunit)]

theorem exists_quotient (hy : 0 < y.units) (hvalue : value = x.units * unitsPerOne / y.units)
    (h : value ≤ largest.units) :
    ∃ m, x.quotient y = some m ∧ |(m.units : ℚ) - value| ≤ max (1 / 2) (value / 2 ^ 53) := by
  refine nearestUnits_error hy ?_ h
  rw [hvalue]
  push_cast
  rfl

end Magnitude

namespace Numeral

open Magnitude

variable {s : Magnitude} {S : ℚ} {P : Int}

theorem tenTo_le_tenTo {j k : Nat} (h : j ≤ k) : Decimal.tenTo j ≤ Decimal.tenTo k :=
  Nat.pow_le_pow_right (by decide) h

/-- A power of ten that is not out of range is a double, but for its rounding. -/
theorem exists_powerOfTen {k : Nat} (h : k ≤ 308) :
    ∃ p, powerOfTen k = some p ∧ 0 < p.units ∧ Within roundoff p.units ((10 : ℚ) ^ k * unitsPerOne) := by
  obtain ⟨p, hp, hwithin⟩ := exists_nearest (n := Decimal.tenTo k) (Nat.pow_pos (by decide))
    (tenTo_le_tenTo h)
  have hcast : (Decimal.tenTo k : ℚ) = (10 : ℚ) ^ k := Nat.cast_pow 10 k
  rw [hcast] at hwithin
  refine ⟨p, hp, ?_, hwithin⟩
  have hpos : (0 : ℚ) < (10 : ℚ) ^ k * unitsPerOne := mul_pos (by positivity) unitsPerOne_cast_pos
  have hunits : (0 : ℚ) < p.units := lt_of_lt_of_le (mul_pos (by norm_num [roundoff]) hpos) hwithin.1
  exact_mod_cast hunits

theorem scale_of_le (steps : Nat) (s : Magnitude) (hP : P.natAbs ≤ 308) {p : Magnitude}
    (hp : powerOfTen P.natAbs = some p) :
    scale steps s P = if 0 ≤ P then s.times p else s.quotient p := by
  rw [scale.eq_def]
  dsimp only
  rw [if_pos hP, hp, Option.bind_some]

/-- **One step of scaling**: what is rounded in the end is right but for two roundings. -/
theorem exists_scale (steps : Nat) (hs : Within roundoff s.units (S * unitsPerOne)) (hS : 0 ≤ S)
    (hP : P.natAbs ≤ 308) (hrange : (1 + roundoffs) * (S * (10 : ℚ) ^ P * unitsPerOne) ≤ largest.units) :
    ∃ m value, scale steps s P = some m ∧ Within roundoffs value (S * (10 : ℚ) ^ P * unitsPerOne) ∧
      |(m.units : ℚ) - value| ≤ max (1 / 2) (value / 2 ^ 53) := by
  obtain ⟨p, hp, hpos, hwithin⟩ := exists_powerOfTen hP
  have hunit := unitsPerOne_cast_pos
  have hSU : 0 ≤ S * unitsPerOne := mul_nonneg hS hunit.le
  rw [scale_of_le steps s hP hp]
  split
  · next hsign =>
    obtain ⟨k, rfl⟩ := Int.eq_ofNat_of_zero_le hsign
    rw [Int.natAbs_natCast] at hwithin
    rw [zpow_natCast] at hrange ⊢
    have hproduct : Within roundoffs (s.units * p.units / unitsPerOne) (S * 10 ^ k * unitsPerOne) := by
      have hmul := hs.mul hwithin hSU (mul_pos (by positivity) hunit).le
      have hvalue : S * unitsPerOne * ((10 : ℚ) ^ k * unitsPerOne) = S * 10 ^ k * unitsPerOne * unitsPerOne := by
        ring
      rw [hvalue] at hmul
      constructor
      · rw [le_div_iff₀ hunit, mul_assoc]
        exact hmul.1
      · rw [div_le_iff₀ hunit, mul_assoc]
        exact hmul.2
    obtain ⟨m, hm, herror⟩ := exists_times rfl (hproduct.2.trans hrange)
    exact ⟨m, _, hm, hproduct, herror⟩
  · next hsign =>
    obtain ⟨k, hk⟩ := Int.eq_ofNat_of_zero_le (a := -P) (by omega)
    obtain rfl : P = -(k : Int) := by omega
    rw [Int.natAbs_neg, Int.natAbs_natCast] at hwithin
    rw [zpow_neg, zpow_natCast] at hrange ⊢
    have hquotient : Within roundoffs (s.units * unitsPerOne / p.units) (S * (10 ^ k)⁻¹ * unitsPerOne) := by
      have hdiv := hs.div hwithin hSU (mul_pos (by positivity) hunit)
      have hvalue : S * unitsPerOne / ((10 : ℚ) ^ k * unitsPerOne) * unitsPerOne =
          S * (10 ^ k)⁻¹ * unitsPerOne := by
        field_simp
      rw [mul_comm (s.units : ℚ), mul_div_assoc, ← hvalue, mul_comm _ (unitsPerOne : ℚ)]
      constructor
      · rw [mul_left_comm]
        exact mul_le_mul_of_nonneg_left hdiv.1 hunit.le
      · rw [mul_left_comm]
        exact mul_le_mul_of_nonneg_left hdiv.2 hunit.le
    obtain ⟨m, hm, herror⟩ := exists_quotient hpos rfl (hquotient.2.trans hrange)
    exact ⟨m, _, hm, hquotient, herror⟩

/-- Powers of ten up to the twenty-second are doubles. -/
theorem exists_powerOfTen_exact {k : Nat} (h : k ≤ 22) :
    ∃ p, powerOfTen k = some p ∧ p.units = Decimal.tenTo k * unitsPerOne := by
  have hall : ∀ k ≤ 22, (powerOfTen k).map units = some (Decimal.tenTo k * unitsPerOne) := by
    decide +kernel
  exact Option.map_eq_some_iff.1 (hall k h)

/-- From below the range of the powers of ten it takes two steps. -/
theorem scale_of_lt (steps : Nat) (hs : s ≠ .zero) (hP : P < -308) :
    scale (steps + 1) s P = (scale steps s (-308)).bind fun m => scale steps m (P + 308) := by
  have hnat : (-308 : Int).natAbs = 308 := by omega
  obtain ⟨p, hp, -⟩ := exists_powerOfTen (k := 308) le_rfl
  have hfirst : scale steps s (-308) = s.quotient p := by
    rw [scale_of_le steps s (P := -308) (Nat.le_of_eq hnat) (hnat.symm ▸ hp), if_neg (by omega)]
  rw [hfirst, scale.eq_def]
  dsimp only
  rw [if_neg (by omega), if_neg hs, if_neg (by omega), hp, Option.bind_some]

end Numeral

/-! ## The error of what is read -/

/-- How far a result can be from a number in whose place it was rounded: the decimal is away from the number by
half of its last bit, and four roundings come to four and a little more. -/
theorem abs_sub_lt_of_rounded {last x v w q r : ℚ} (hlast : 1 ≤ last) (hx : x + last ≤ 2 ^ 53 * last)
    (hv : |v - x| ≤ last / 2) (hw : Within roundoffs w v) (hq : |q - w| ≤ max (1 / 20) (w / 2 ^ 53))
    (hr : |r - q| ≤ max (1 / 2) (q / 2 ^ 53)) : |r - x| < 5 * last := by
  norm_num [Within, roundoffs, roundoff] at hw
  rw [abs_le] at hv
  rw [le_max_iff, abs_le, abs_le] at hq hr
  rw [abs_lt]
  rcases hq with hq | hq <;> rcases hr with hr | hr <;> constructor <;> linarith

namespace Magnitude

open Numeral

variable {x : Magnitude}

/-- What is rounded from something is not zero. -/
theorem ne_zero_of_within {s : Magnitude} {S : ℚ} (h : Within roundoff s.units (S * unitsPerOne)) (hS : 0 < S) :
    s ≠ .zero := by
  rintro rfl
  have hzero := lt_of_lt_of_le (mul_pos (by norm_num [roundoff]) (mul_pos hS unitsPerOne_cast_pos)) h.1
  exact absurd hzero (by norm_num [units, zero])

theorem units_le_largest (x : Magnitude) : x.units ≤ largest.units := by
  obtain ⟨hmantissa, hexponent, -⟩ := x.canonical
  rw [Nat.one_shiftLeft] at hmantissa
  rw [units, units, Nat.shiftLeft_eq, Nat.shiftLeft_eq]
  exact Nat.mul_le_mul (Nat.le_sub_one_of_lt hmantissa) (Nat.pow_le_pow_right (by decide) hexponent)

theorem units_cast (x : Magnitude) : (x.units : ℚ) = x.mantissa * 2 ^ x.exponent := by
  rw [units, Nat.shiftLeft_eq]
  push_cast
  rfl

theorem units_add_le (x : Magnitude) : (x.units : ℚ) + 2 ^ x.exponent ≤ 2 ^ 53 * 2 ^ x.exponent := by
  have hmantissa : (x.mantissa : ℚ) + 1 ≤ 2 ^ 53 := by
    have hlt := x.canonical.1
    rw [Nat.one_shiftLeft] at hlt
    exact_mod_cast hlt
  have hmul := mul_le_mul_of_nonneg_right hmantissa (show (0 : ℚ) ≤ 2 ^ x.exponent by positivity)
  rw [units_cast]
  linarith

/-- What is read for a magnitude, in units: a whole number and a power of ten whose product is not farther away
than half of the last bit. -/
theorem spread_near (h : x ≠ .zero) :
    |(x.shortest .even).spread.coefficient * (10 : ℚ) ^ (x.shortest .even).spread.exponent * unitsPerOne -
      x.units| ≤ 2 ^ x.exponent / 2 := by
  rw [← Decimal.cast_ratio]
  exact near_of_admits (ratio_pos _) (spread_shortest h).1

theorem exists_nearest_spread (h : x ≠ .zero) :
    ∃ s, nearest (x.shortest .even).spread.coefficient 1 = some s ∧
      Within roundoff s.units ((x.shortest .even).spread.coefficient * unitsPerOne) := by
  obtain ⟨-, hpos, hfew, -⟩ := spread_shortest h
  exact exists_nearest hpos (Nat.le_trans (Nat.le_of_lt hfew) (by decide +kernel))

/-- **The quick method reads a magnitude back with a small error**, if its power of ten is in range and there is
room above. -/
theorem reread?_near_of_le (h : x ≠ .zero) (hexponent : -308 ≤ (x.shortest .even).spread.exponent)
    (hroom : (x.units : ℚ) + 3 * 2 ^ x.exponent ≤ largest.units) :
    ∃ y, x.reread? = some y ∧ |(y.units : ℚ) - x.units| < 5 * 2 ^ x.exponent := by
  obtain ⟨-, -, -, -, hmost⟩ := spread_shortest h
  obtain ⟨s, hs, hwithin⟩ := exists_nearest_spread h
  have hnear := spread_near h
  have hx := x.units_add_le
  have hlast : (1 : ℚ) ≤ 2 ^ x.exponent := one_le_pow₀ (by norm_num)
  rw [reread?, hs, Option.bind_some]
  generalize (x.shortest .even).spread = d at hexponent hmost hwithin hnear ⊢
  generalize (2 : ℚ) ^ x.exponent = last at hroom hnear hx hlast ⊢
  have hrange : (1 + roundoffs) * (d.coefficient * (10 : ℚ) ^ d.exponent * unitsPerOne) ≤ largest.units := by
    have habove := (abs_le.1 hnear).2
    norm_num only [roundoffs, roundoff]
    linarith
  obtain ⟨y, value, hy, hvalue, herror⟩ :=
    exists_scale 3 hwithin (Nat.cast_nonneg _) (by omega) hrange
  refine ⟨y, hy, abs_sub_lt_of_rounded hlast hx hnear hvalue ?_ herror⟩
  rw [sub_self, abs_zero]
  exact le_max_of_le_left (by norm_num)

/-- Below the range of the powers of ten a number is far from the largest magnitude. -/
theorem le_largest_of_lt {c : Nat} (h : c < 2 ^ 64) :
    (1 + roundoffs) * (c * (10 : ℚ) ^ (-308 : Int) * unitsPerOne) ≤ largest.units := by
  have hunit := unitsPerOne_cast_pos
  have hsmall : (10 : ℚ) ^ (-308 : Int) ≤ 1 := zpow_le_one_of_nonpos₀ (by norm_num) (by norm_num)
  have hpos : (0 : ℚ) ≤ 10 ^ (-308 : Int) := zpow_nonneg (by norm_num) _
  have hfew : (c : ℚ) ≤ 2 ^ 64 := by exact_mod_cast h.le
  have hlargest : 2 * (2 ^ 64 * 1 * unitsPerOne : ℚ) ≤ largest.units := by
    have hle : 2 * (2 ^ 64 * 1 * unitsPerOne) ≤ largest.units := by decide +kernel
    exact_mod_cast hle
  generalize (10 : ℚ) ^ (-308 : Int) = power at hsmall hpos ⊢
  have hvalue : c * power ≤ 2 ^ 64 * 1 := mul_le_mul hfew hsmall hpos (by norm_num)
  have hnonneg : 0 ≤ c * power * unitsPerOne := mul_nonneg (mul_nonneg (Nat.cast_nonneg c) hpos) hunit.le
  calc (1 + roundoffs) * (c * power * unitsPerOne)
      ≤ 2 * (c * power * unitsPerOne) :=
        mul_le_mul_of_nonneg_right (by norm_num [roundoffs, roundoff]) hnonneg
    _ ≤ 2 * (2 ^ 64 * 1 * unitsPerOne : ℚ) :=
        mul_le_mul_of_nonneg_left (mul_le_mul_of_nonneg_right hvalue hunit.le) zero_le_two
    _ ≤ largest.units := hlargest

/-- A step that divides by a power of ten which is a double adds the error of one rounding only. -/
theorem exists_scale_exact (steps : Nat) (q : Magnitude) {k : Nat} (hpos : 0 < k) (h : k ≤ 22) :
    ∃ y, scale steps q (-(k : Int)) = some y ∧
      |(y.units : ℚ) - q.units / 10 ^ k| ≤ max (1 / 2) ((q.units : ℚ) / 10 ^ k / 2 ^ 53) := by
  obtain ⟨p, hp, hunits⟩ := exists_powerOfTen_exact h
  have hunit := unitsPerOne_cast_pos
  have hcast : (Decimal.tenTo k : ℚ) = (10 : ℚ) ^ k := Nat.cast_pow 10 k
  have hunits : (p.units : ℚ) = (10 : ℚ) ^ k * unitsPerOne := by rw [hunits, Nat.cast_mul, hcast]
  have hpower : (1 : ℚ) ≤ 10 ^ k := one_le_pow₀ (by norm_num)
  have hnatAbs : (-(k : Int)).natAbs = k := by omega
  have hstep := scale_of_le steps q (P := -(k : Int)) (by omega) (hnatAbs.symm ▸ hp)
  rw [hstep, if_neg (by omega)]
  have hpPos : (0 : ℚ) < p.units := hunits ▸ mul_pos (zero_lt_one.trans_le hpower) hunit
  have hvalue : (q.units : ℚ) / 10 ^ k = q.units * unitsPerOne / p.units := by
    rw [hunits, mul_div_mul_right _ _ (ne_of_gt hunit)]
  refine exists_quotient (by exact_mod_cast hpPos) hvalue ?_
  refine (div_le_self (Nat.cast_nonneg _) hpower).trans ?_
  exact_mod_cast q.units_le_largest

/-- **So it does below the range of the powers of ten**, in two steps. -/
theorem reread?_near_of_lt (h : x ≠ .zero) (hexponent : (x.shortest .even).spread.exponent < -308) :
    ∃ y, x.reread? = some y ∧ |(y.units : ℚ) - x.units| < 5 * 2 ^ x.exponent := by
  obtain ⟨-, hpos, hfew, hleast, -⟩ := spread_shortest h
  obtain ⟨s, hs, hwithin⟩ := exists_nearest_spread h
  have hnear := spread_near h
  have hx := x.units_add_le
  have hlast : (1 : ℚ) ≤ 2 ^ x.exponent := one_le_pow₀ (by norm_num)
  rw [reread?, hs, Option.bind_some]
  generalize (x.shortest .even).spread = d at hpos hfew hexponent hleast hwithin hnear ⊢
  generalize (2 : ℚ) ^ x.exponent = last at hnear hx hlast ⊢
  obtain ⟨q, w, hq, hw, herror⟩ :=
    exists_scale 2 hwithin (Nat.cast_nonneg _) (by omega) (le_largest_of_lt hfew)
  obtain ⟨k, hk⟩ := Int.eq_ofNat_of_zero_le (a := -(d.exponent + 308)) (by omega)
  obtain ⟨y, hy, hlastError⟩ := exists_scale_exact 2 q (k := k) (by omega) (by omega)
  have hrest : d.exponent + 308 = -(k : Int) := by omega
  rw [scale_of_lt 2 (ne_zero_of_within hwithin (Nat.cast_pos.2 hpos)) hexponent, hq, Option.bind_some, hrest]
  have hvalue : d.coefficient * (10 : ℚ) ^ d.exponent * unitsPerOne =
      d.coefficient * (10 : ℚ) ^ (-308 : Int) * unitsPerOne / 10 ^ k := by
    have hsum : d.exponent = -308 - (k : Int) := by omega
    rw [hsum, zpow_sub₀ (by norm_num), zpow_natCast]
    ring
  have hpower : (10 : ℚ) ≤ 10 ^ k := by
    have hle := pow_le_pow_right₀ (show (1 : ℚ) ≤ 10 by norm_num) (show 1 ≤ k by omega)
    rwa [pow_one] at hle
  rw [hvalue] at hnear
  generalize (10 : ℚ) ^ k = power at hpower hnear hlastError
  have hpos : 0 < power := lt_of_lt_of_le (by norm_num) hpower
  refine ⟨y, hy, abs_sub_lt_of_rounded (w := w / power) hlast hx hnear ⟨?_, ?_⟩ ?_ hlastError⟩
  · rw [← mul_div_assoc]
    exact div_le_div_of_nonneg_right hw.1 hpos.le
  · rw [← mul_div_assoc]
    exact div_le_div_of_nonneg_right hw.2 hpos.le
  · rw [← sub_div, abs_div, abs_of_pos hpos]
    refine le_trans (div_le_div_of_nonneg_right herror hpos.le) ?_
    rw [← max_div_div_right hpos.le, div_right_comm w]
    refine max_le_max ?_ le_rfl
    rw [div_le_iff₀ hpos]
    linarith

/-- Only the three largest magnitudes have no room above them. -/
theorem room_or_top (x : Magnitude) :
    x.units + 3 * 2 ^ x.exponent ≤ largest.units ∨
      ∃ j < 3, make? (2 ^ 53 - 1 - j) largest.exponent = some x := by
  have hmake : make? x.mantissa x.exponent = some x := dif_pos x.canonical
  obtain ⟨hmantissa, hexponent, -⟩ := x.canonical
  obtain ⟨last, hlast⟩ : ∃ last, last = largest.exponent := ⟨_, rfl⟩
  rw [Nat.one_shiftLeft] at hmantissa
  rw [units_largest hlast, ← hlast, units, Nat.shiftLeft_eq, ← Nat.add_mul]
  have hexponent : x.exponent ≤ last := hlast ▸ hexponent
  rcases Nat.lt_or_eq_of_le hexponent with hlt | heq
  · refine .inl ?_
    calc (x.mantissa + 3) * 2 ^ x.exponent
        ≤ (2 ^ 53 - 1) * 2 * 2 ^ x.exponent := Nat.mul_le_mul_right _ (by omega)
      _ = (2 ^ 53 - 1) * 2 ^ (x.exponent + 1) := by rw [Nat.mul_assoc, ← Nat.pow_succ']
      _ ≤ (2 ^ 53 - 1) * 2 ^ last := Nat.mul_le_mul_left _ (Nat.pow_le_pow_right (by decide) hlt)
  · by_cases hroom : x.mantissa + 3 ≤ 2 ^ 53 - 1
    · rw [heq]
      exact .inl (Nat.mul_le_mul_right _ hroom)
    · refine .inr ⟨2 ^ 53 - 1 - x.mantissa, by omega, ?_⟩
      rw [Nat.sub_sub_self (by omega), ← heq, hmake]

/-- The other magnitude is less than five units in the last place away. -/
def Near (x y : Magnitude) : Prop :=
  x.units < y.units + 5 * 2 ^ x.exponent ∧ y.units < x.units + 5 * 2 ^ x.exponent

instance (x y : Magnitude) : Decidable (x.Near y) := inferInstanceAs (Decidable (_ ∧ _))

theorem near_of_abs_lt (h : |(y.units : ℚ) - x.units| < 5 * 2 ^ x.exponent) : x.Near y := by
  rw [abs_lt] at h
  have hless : (x.units : ℚ) < y.units + 5 * 2 ^ x.exponent := by linarith
  have hmore : (y.units : ℚ) < x.units + 5 * 2 ^ x.exponent := by linarith
  exact ⟨by exact_mod_cast hless, by exact_mod_cast hmore⟩

/-- The three largest magnitudes are read back as themselves or next to themselves. -/
theorem reread?_top :
    ∀ j < 3, (make? (2 ^ 53 - 1 - j) largest.exponent).all fun x => x.reread?.any fun y => x.Near y := by
  decide +kernel

/-- **Every magnitude other than zero is read back, and near to what it was.** -/
theorem reread?_near (h : x ≠ .zero) : ∃ y, x.reread? = some y ∧ x.Near y := by
  rcases x.room_or_top with hroom | ⟨j, hj, htop⟩
  · by_cases hexponent : -308 ≤ (x.shortest .even).spread.exponent
    · obtain ⟨y, hy, hnear⟩ := reread?_near_of_le h hexponent (by exact_mod_cast hroom)
      exact ⟨y, hy, near_of_abs_lt hnear⟩
    · obtain ⟨y, hy, hnear⟩ := reread?_near_of_lt h (by omega)
      exact ⟨y, hy, near_of_abs_lt hnear⟩
  · have hall := reread?_top j hj
    rw [htop, Option.all_some, Option.any_eq_true] at hall
    obtain ⟨y, hy, hnear⟩ := hall
    exact ⟨y, hy, of_decide_eq_true hnear⟩

/-! ## Magnitudes that come back -/

/-- **A magnitude is read back as it is when the digits that are read for it are a double and the power of ten
is one**, for then only the result is rounded. -/
theorem reread?_eq_self (h : x ≠ .zero) (hdigits : (x.shortest .even).spread.coefficient < 2 ^ 53)
    (hexponent : (x.shortest .even).spread.exponent.natAbs ≤ 22) : x.reread? = some x := by
  obtain ⟨hadmits, -⟩ := spread_shortest h
  rw [reread?]
  generalize (x.shortest .even).spread = d at hadmits hdigits hexponent ⊢
  obtain ⟨s, hs, hunits⟩ := nearest_of_lt hdigits
  obtain ⟨p, hp, hpower⟩ := exists_powerOfTen_exact hexponent
  have hunit := unitsPerOne_pos
  rw [hs, Option.bind_some, scale_of_le 3 s (Nat.le_trans hexponent (by decide)) hp]
  split
  · next hsign =>
    have hratio : d.ratio = (d.coefficient * Decimal.tenTo d.exponent.toNat, 1) := if_pos hsign
    have hnat : d.exponent.natAbs = d.exponent.toNat := by omega
    rw [hratio] at hadmits
    rw [times, hunits, hpower, hnat]
    refine nearest_of_admits (Nat.mul_pos hunit hunit) ?_
    have hscaled := admits_mul_mul x (d.coefficient * Decimal.tenTo d.exponent.toNat) 1 (Nat.mul_pos hunit hunit)
    rw [Nat.one_mul] at hscaled
    have hproduct : d.coefficient * unitsPerOne * (Decimal.tenTo d.exponent.toNat * unitsPerOne) =
        d.coefficient * Decimal.tenTo d.exponent.toNat * (unitsPerOne * unitsPerOne) := by ring
    rw [hproduct, hscaled]
    exact hadmits
  · next hsign =>
    have hratio : d.ratio = (d.coefficient, Decimal.tenTo (-d.exponent).toNat) := if_neg hsign
    have hnat : d.exponent.natAbs = (-d.exponent).toNat := by omega
    rw [hratio] at hadmits
    rw [quotient, hunits, hpower, hnat]
    refine nearest_of_admits (Nat.mul_pos (Nat.pow_pos (by decide)) hunit) ?_
    rw [admits_mul_mul x _ _ hunit]
    exact hadmits

end Magnitude

end Fieldbook
