import Fieldbook.Proofs.Double.Reading

/-!
# Doubles, written as numerals and read again

A double is written with its shortest decimal and read by the quick method, which gathers the digits into a
whole number and scales it by a power of ten. No digit is left over (`Numeral.gather_eq`), so what is scaled is
the decimal itself, with one more zero where it was written with a point behind a whole number
(`Numeral.toDouble?_ofDecimal`).
-/

namespace Fieldbook

namespace Decimal

/-- The whole number and the power of ten that are read from the numeral of a decimal. A whole number is
written with one decimal place, which is gathered with the rest. -/
def spread (d : Decimal) : Decimal :=
  if 0 ≤ d.exponent ∧ d.point ≤ 16 then ⟨d.coefficient * 10 ^ (d.exponent.toNat + 1), -1⟩ else d

end Decimal

namespace Numeral

theorem le_ofDigitChars (cs : List Char) (n : Nat) : n ≤ Nat.ofDigitChars 10 cs n := by
  induction cs generalizing n with
  | nil => exact Nat.le_refl n
  | cons c cs ih =>
    rw [Nat.ofDigitChars_cons]
    exact Nat.le_trans (by omega) (ih _)

/-- **All digits are gathered** when the number that they spell is below `2 ^ 64`. -/
theorem gather_eq {cs : List Char} (h : ∀ c ∈ cs, Decimal.isDigit c = true) {n : Nat}
    (hfits : Nat.ofDigitChars 10 cs n < 2 ^ 64) : gather n cs = (Nat.ofDigitChars 10 cs n, []) := by
  induction cs generalizing n with
  | nil => rfl
  | cons c cs ih =>
    have hc : Decimal.digit? c = some (c.toNat - '0'.toNat) := by
      rw [Decimal.digit?_eq, if_pos (Decimal.isDigit_eq c ▸ h c List.mem_cons_self)]
    rw [Nat.ofDigitChars_cons] at hfits ⊢
    have hnext : ¬ UInt64.size ≤ 10 * n + (c.toNat - '0'.toNat) :=
      Nat.not_le.2 (Nat.lt_of_le_of_lt (le_ofDigitChars cs _) hfits)
    rw [gather, hc]
    dsimp only [Option.getD_some]
    rw [if_neg hnext]
    exact ih (fun d hd => h d (List.mem_cons_of_mem c hd)) hfits

/-- The significand of a numeral is the number that all its digits spell, with as many decimal places as there
are, when that number is below `2 ^ 64`. -/
theorem significand_eq {n : Numeral} (hwhole : ∀ c ∈ n.whole, Decimal.isDigit c = true)
    (hfraction : ∀ c ∈ n.fraction, Decimal.isDigit c = true)
    (hfits : Nat.ofDigitChars 10 (n.whole ++ n.fraction) 0 < 2 ^ 64) :
    n.significand = (Nat.ofDigitChars 10 (n.whole ++ n.fraction) 0, -(n.fraction.length : Int)) := by
  rw [Nat.ofDigitChars_append] at hfits ⊢
  have hfirst : Nat.ofDigitChars 10 n.whole 0 < 2 ^ 64 := Nat.lt_of_le_of_lt (le_ofDigitChars _ _) hfits
  rw [significand, gather_eq hwhole hfirst]
  dsimp only
  rw [gather_eq hfraction hfits]
  simp

variable {d : Decimal}

/-- What the numeral of a decimal spells, and where its point is. -/
theorem spelled_ofDecimal (negative : Bool) (h : 0 < d.coefficient) :
    Nat.ofDigitChars 10 ((ofDecimal negative d).whole ++ (ofDecimal negative d).fraction) 0 =
        d.spread.coefficient ∧
      (ofDecimal negative d).exponent.getD 0 - (ofDecimal negative d).fraction.length = d.spread.exponent := by
  have hpoint : d.point = d.digits.length + d.exponent := rfl
  have hspelled : Nat.ofDigitChars 10 d.digits 0 = d.coefficient := Nat.ofDigitChars_ten_toDigits
  have hlength : 0 < d.digits.length := Nat.length_toDigits_pos
  rw [ofDecimal, Decimal.spread]
  dsimp only
  split
  · next hwhole =>
    have hdigits : d.digits ++ List.replicate d.exponent.toNat '0' ++ ['0'] =
        Nat.toDigits 10 (d.coefficient * 10 ^ (d.exponent.toNat + 1)) := by
      rw [Magnitude.toDigits_mul_pow h, List.append_assoc, ← List.replicate_succ']
      rfl
    dsimp only
    rw [hdigits, Nat.ofDigitChars_ten_toDigits]
    exact ⟨rfl, rfl⟩
  · split
    · next hsmall =>
      dsimp only
      rw [List.take_append_drop, hspelled, List.length_drop, Option.getD_none]
      exact ⟨rfl, by omega⟩
    · split
      · next hsmall =>
        have hzeros : ['0'] ++ (List.replicate (-d.point).toNat '0' ++ d.digits) =
            List.replicate ((-d.point).toNat + 1) '0' ++ d.digits := rfl
        dsimp only
        rw [hzeros, Decimal.ofDigitChars_replicate, hspelled, List.length_append, List.length_replicate,
          Option.getD_none]
        exact ⟨rfl, by omega⟩
      · dsimp only
        rw [List.take_append_drop, hspelled, List.length_drop, Option.getD_some]
        exact ⟨rfl, by omega⟩

theorem coefficient_spread_lt (h : d.coefficient < 2 ^ 58) : d.spread.coefficient < 2 ^ 64 := by
  rw [Decimal.spread]
  split
  · next hwhole =>
    rcases Nat.eq_zero_or_pos d.coefficient with hzero | hpos
    · rw [hzero, Nat.zero_mul]
      decide
    · have hpoint : d.point = d.digits.length + d.exponent := rfl
      have hlength : (Nat.toDigits 10 (d.coefficient * 10 ^ d.exponent.toNat)).length ≤ 16 := by
        rw [Magnitude.toDigits_mul_pow hpos, List.length_append, List.length_replicate]
        change d.digits.length + _ ≤ 16
        omega
      have hfew := (Nat.length_toDigits_le_iff (by decide) (by decide)).1 hlength
      dsimp only
      rw [Nat.pow_succ, ← Nat.mul_assoc]
      omega
  · omega

theorem negative_ofDecimal (negative : Bool) (d : Decimal) : (ofDecimal negative d).negative = negative := by
  rw [ofDecimal]
  dsimp only
  split_ifs <;> rfl

theorem exponent_ofDecimal (negative : Bool) (d : Decimal) :
    (ofDecimal negative d).exponent.getD 0 = 0 ∨ (ofDecimal negative d).exponent.getD 0 = d.point - 1 := by
  rw [ofDecimal]
  dsimp only
  split
  · exact .inl rfl
  · split
    · exact .inl rfl
    · split
      · exact .inl rfl
      · exact .inr rfl

/-- **A numeral that is written for a decimal is read by scaling the decimal**, spread out as it is written. -/
theorem toDouble?_ofDecimal (negative : Bool) (hpos : 0 < d.coefficient) (hfew : d.coefficient < 2 ^ 58)
    (hleast : -324 ≤ d.exponent) (hmost : d.exponent ≤ 308) :
    (ofDecimal negative d).toDouble? =
      ((Magnitude.nearest d.spread.coefficient 1).bind fun m => scale 3 m d.spread.exponent).map
        (.finite negative) := by
  obtain ⟨hspelled, hplaces⟩ := spelled_ofDecimal negative hpos
  have hwell := wellFormed_ofDecimal negative hpos
  have hsignificand := significand_eq hwell.whole hwell.fraction (hspelled ▸ coefficient_spread_lt hfew)
  have hlength : d.digits.length ≤ 18 :=
    (Nat.length_toDigits_le_iff (by decide) (by decide)).2 (Nat.lt_trans hfew (by decide))
  have hpoint : d.point = d.digits.length + d.exponent := rfl
  have hlimit : ¬ exponentLimit < ((ofDecimal negative d).exponent.getD 0).natAbs := by
    rw [exponentLimit]
    rcases exponent_ofDecimal negative d with h | h <;> omega
  have hscale : -((ofDecimal negative d).fraction.length : Int) + (ofDecimal negative d).exponent.getD 0 =
      d.spread.exponent := by omega
  rw [toDouble?, hsignificand, isInteger_ofDecimal, hspelled]
  dsimp only
  rw [Bool.false_and, if_neg Bool.false_ne_true, if_neg hlimit, hscale, negative_ofDecimal]
  cases Magnitude.nearest d.spread.coefficient 1 <;> rfl

end Numeral

/-! ## Magnitudes -/

namespace Magnitude

variable {x : Magnitude}

/-- The magnitude that is read where the magnitude was written; none if it is beyond the largest one. -/
def reread? (x : Magnitude) : Option Magnitude :=
  (nearest (x.shortest .even).spread.coefficient 1).bind fun m =>
    Numeral.scale 3 m (x.shortest .even).spread.exponent

/-- **A finite number other than zero is read from its numeral with its sign** and with the magnitude that is
read for its own. -/
theorem toDouble?_ofDouble? (negative : Bool) (h : x ≠ .zero) :
    (Numeral.ofDouble? (.finite negative x)).bind Numeral.toDouble? = x.reread?.map (.finite negative) := by
  rw [Numeral.ofDouble?, if_neg h, Option.bind_some]
  exact Numeral.toDouble?_ofDecimal negative (coefficient_shortest h .even) (coefficient_shortest_lt h .even)
    (le_exponent_shortest h .even) (exponent_shortest_le h .even)

theorem admits_mul_mul (x : Magnitude) (num den : Nat) {t : Nat} (ht : 0 < t) :
    x.admits (num * t) (den * t) = x.admits num den := by
  have hscale : ∀ a, a * (den * t) <<< x.exponent = a * den <<< x.exponent * t := fun a => by
    rw [Nat.shiftLeft_eq, Nat.shiftLeft_eq]
    ring
  have hvalue : 4 * (num * t) * unitsPerOne = 4 * num * unitsPerOne * t := by ring
  simp only [admits, hscale, hvalue, Nat.mul_le_mul_right_iff ht, Nat.mul_lt_mul_right ht]

/-- What is read for a magnitude is its shortest decimal, spread out: it reads back as the magnitude. -/
theorem spread_shortest (h : x ≠ .zero) :
    x.admits (x.shortest .even).spread.ratio.1 (x.shortest .even).spread.ratio.2 = true ∧
      0 < (x.shortest .even).spread.coefficient ∧ (x.shortest .even).spread.coefficient < 2 ^ 64 ∧
      -324 ≤ (x.shortest .even).spread.exponent ∧ (x.shortest .even).spread.exponent ≤ 308 := by
  obtain ⟨hadmits, -⟩ := shortest_found h .even
  have hpos := coefficient_shortest h .even
  have hfew := Numeral.coefficient_spread_lt (coefficient_shortest_lt h .even)
  have hleast := le_exponent_shortest h .even
  have hmost := exponent_shortest_le h .even
  refine ⟨?_, ?_, hfew, ?_, ?_⟩
  · rw [Decimal.spread]
    split
    · next hwhole =>
      have hratio : (x.shortest .even).ratio =
          ((x.shortest .even).coefficient * 10 ^ (x.shortest .even).exponent.toNat, 1) := if_pos hwhole.1
      have hspread := admits_mul_mul x (x.shortest .even).ratio.1 (x.shortest .even).ratio.2 (t := 10)
        (by decide)
      rw [hadmits, hratio, Nat.mul_assoc, ← Nat.pow_succ] at hspread
      exact hspread
    · exact hadmits
  · rw [Decimal.spread]
    split
    · exact Nat.mul_pos hpos (Nat.pow_pos (by decide))
    · exact hpos
  · rw [Decimal.spread]
    split
    · exact (by decide : (-324 : Int) ≤ -1)
    · exact hleast
  · rw [Decimal.spread]
    split
    · exact (by decide : (-1 : Int) ≤ 308)
    · exact hmost

/-- A whole number below `2 ^ 53` is read with all its digits and one decimal place. -/
theorem spread_shortest_whole {w : Nat} (hunits : x.units = w * unitsPerOne) (hpos : 0 < w) (hw : w < 2 ^ 53) :
    (x.shortest .even).spread = ⟨w * 10, -1⟩ := by
  obtain ⟨hleast, hmost⟩ := tenAbove_whole hunits hpos (by omega)
  obtain ⟨hexponent, hadmits⟩ := searchGrids_whole hunits .even hleast hmost
  have hcoefficient := coefficient_shortest (ne_zero_of_units hunits hpos) .even
  rw [shortest] at hcoefficient ⊢
  generalize x.searchGrids .even 24 x.tenAbove = d at hexponent hadmits hcoefficient ⊢
  have hvalue : d.coefficient * 10 ^ d.exponent.toNat = w := eq_of_admits hunits hw hadmits
  have hdigits : Nat.toDigits 10 w = d.digits ++ List.replicate d.exponent.toNat '0' := by
    rw [← hvalue, toDigits_mul_pow hcoefficient, Decimal.digits]
  have hlength : (Nat.toDigits 10 w).length ≤ 16 :=
    (Nat.length_toDigits_le_iff (by decide) (by decide)).2 (Nat.lt_trans hw (by decide))
  rw [hdigits, List.length_append, List.length_replicate] at hlength
  have hpoint : d.point ≤ 16 := by
    rw [Decimal.point]
    omega
  rw [Decimal.spread, if_pos ⟨hexponent, hpoint⟩, Nat.pow_succ, ← Nat.mul_assoc, hvalue]

end Magnitude

end Fieldbook
