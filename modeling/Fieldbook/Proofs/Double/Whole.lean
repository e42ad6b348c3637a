import Fieldbook.Proofs.Json.Numeral
import Mathlib

/-!
# Whole numbers as doubles

A natural number below `2 ^ 53` is a double (`Magnitude.nearest_of_lt`), and below `10 ^ 15` it is written
with its own digits, which are read as that number again:

* `Double.plain_ofNat` and `Double.read?_toString` are the two ways;
* `Double.truncated?_ofNat` gets the natural number back from the double.
-/

namespace Fieldbook

namespace Magnitude

theorem unitsPerOne_pos : 0 < unitsPerOne := by
  rw [unitsPerOne, Nat.one_shiftLeft]
  exact Nat.two_pow_pos 1074

/-- The exponent stays a variable where no power is to be worked out. -/
theorem exists_unitsPerOne : ∃ one, one = 1074 ∧ unitsPerOne = 2 ^ one := by
  obtain ⟨one, hone⟩ : ∃ one, one = 1074 := ⟨1074, rfl⟩
  exact ⟨one, hone, by rw [unitsPerOne, ← hone, Nat.one_shiftLeft]⟩

theorem roundedQuotient_mul (n : Nat) {den : Nat} (h : 0 < den) : roundedQuotient (n * den) den = n := by
  rw [roundedQuotient, Nat.mul_mod_left, Nat.mul_div_cancel n h]
  exact if_pos h

theorem log2_mul_two_pow {n : Nat} (h : 0 < n) (k : Nat) : (n * 2 ^ k).log2 = n.log2 + k := by
  rw [Nat.log2_eq_iff (Nat.ne_of_gt (Nat.mul_pos h (Nat.two_pow_pos k))), Nat.add_right_comm,
    Nat.pow_add, Nat.pow_add]
  exact ⟨Nat.mul_le_mul_right _ (Nat.log2_self_le (Nat.ne_of_gt h)),
    Nat.mul_lt_mul_of_pos_right Nat.lt_log2_self (Nat.two_pow_pos k)⟩

/-- **A natural number of fifty-three bits is a magnitude.** -/
theorem nearest_of_lt {n : Nat} (h : n < 2 ^ 53) :
    ∃ m, nearest n 1 = some m ∧ m.units = n * unitsPerOne := by
  rcases Nat.eq_zero_or_pos n with rfl | hpos
  · exact ⟨zero, by rw [nearest, Nat.zero_mul]; rfl, by rw [Nat.zero_mul]; rfl⟩
  have hlog : n.log2 < 53 := (Nat.log2_lt (Nat.ne_of_gt hpos)).2 h
  obtain ⟨one, hone, hunit⟩ := exists_unitsPerOne
  -- The mantissa is `n` with zeros behind it up to the fifty-third bit.
  obtain ⟨zeros, hzeros⟩ : ∃ zeros, n.log2 + zeros = 52 := ⟨52 - n.log2, by omega⟩
  obtain ⟨exponent, hexponent⟩ : ∃ exponent, zeros + exponent = one := ⟨one - zeros, by omega⟩
  have hunits : n * unitsPerOne = n * 2 ^ zeros * 2 ^ exponent := by
    rw [hunit, Nat.mul_assoc, ← Nat.pow_add, hexponent]
  have hlog2 : (n * unitsPerOne / 1).log2 - 52 = exponent := by
    rw [Nat.div_one, hunit, log2_mul_two_pow hpos]
    omega
  have hmantissa : roundedQuotient (n * unitsPerOne) (1 <<< exponent) = n * 2 ^ zeros := by
    rw [hunits, Nat.one_shiftLeft]
    exact roundedQuotient_mul _ (Nat.two_pow_pos _)
  have hmost : n * 2 ^ zeros < 2 ^ 53 := by
    refine (Nat.log2_lt (Nat.ne_of_gt (Nat.mul_pos hpos (Nat.two_pow_pos zeros)))).1 ?_
    rw [log2_mul_two_pow hpos]
    omega
  have hleast : 2 ^ 52 ≤ n * 2 ^ zeros := by
    rw [← hzeros, Nat.pow_add]
    exact Nat.mul_le_mul_right _ (Nat.log2_self_le (Nat.ne_of_gt hpos))
  have hcanonical : n * 2 ^ zeros < 1 <<< 53 ∧ exponent ≤ 2045 ∧
      (exponent = 0 ∨ 1 <<< 52 ≤ n * 2 ^ zeros) := by
    rw [Nat.one_shiftLeft, Nat.one_shiftLeft]
    exact ⟨hmost, by omega, .inr hleast⟩
  refine ⟨⟨n * 2 ^ zeros, exponent, hcanonical⟩, ?_, ?_⟩
  · have hcarry : n * 2 ^ zeros ≠ 1 <<< 53 := Nat.ne_of_lt hcanonical.1
    rw [nearest, nearestUnits, hlog2, hmantissa, if_neg hcarry, make?, dif_pos hcanonical]
  · rw [units, Nat.shiftLeft_eq, ← hunits]

variable {m : Magnitude} {n : Nat}

theorem isWhole_of_units (h : m.units = n * unitsPerOne) : m.isWhole = true := by
  rw [isWhole, h, Nat.mul_mod_left]
  rfl

theorem wholePart_of_units (h : m.units = n * unitsPerOne) : m.wholePart = n := by
  rw [wholePart, h, Nat.mul_div_cancel n unitsPerOne_pos]

end Magnitude

namespace Double

variable {n : Nat}

theorem truncated?_ofNat {limit : Nat} (hlimit : n ≤ limit) (h : n < 2 ^ 53) :
    truncated? limit (ofNat n) = some n := by
  obtain ⟨m, hm, hunits⟩ := Magnitude.nearest_of_lt h
  have hle : m.units ≤ limit * Magnitude.unitsPerOne := by
    rw [hunits]
    exact Nat.mul_le_mul_right _ hlimit
  rw [ofNat, hm, signed, truncated?, Magnitude.wholePart_of_units hunits]
  exact if_pos (decide_eq_true hle)

/-- **A natural number shows its own digits** when there are not more than fifteen. -/
theorem plain_ofNat (h : n < 10 ^ 15) : (ofNat n).plain = toString n := by
  obtain ⟨m, hm, hunits⟩ := Magnitude.nearest_of_lt (n := n) (by omega)
  have hwhole := Magnitude.wholePart_of_units hunits
  have hplain : (m.isWhole && m.wholePart < Decimal.tenTo 15) = true := by
    rw [Magnitude.isWhole_of_units hunits, hwhole]
    exact decide_eq_true h
  rw [ofNat, hm, signed, plain, if_pos hplain, hwhole]
  simp

/-- A whole number without an exponent means itself, if it is not too long to be looked at. -/
theorem ofDecimal_whole (hlength : (Nat.toDigits 10 n).length ≤ 400) :
    ofDecimal false ⟨n, 0⟩ = ofNat n := by
  have hpoint : (⟨n, 0⟩ : Decimal).point = (Nat.toDigits 10 n).length := Int.add_zero _
  rcases Nat.eq_zero_or_pos n with rfl | hpos
  · rw [ofDecimal, if_pos (.inl rfl), ofNat, Magnitude.nearest, Nat.zero_mul]
    rfl
  · have hratio : (⟨n, 0⟩ : Decimal).ratio = (n, 1) := by simp [Decimal.ratio, Decimal.tenTo]
    have hnear : ¬ (n = 0 ∨ (⟨n, 0⟩ : Decimal).point < -400) := by omega
    rw [ofDecimal, if_neg hnear, if_neg (by omega), hratio]
    rfl

/-- What begins with a digit has no other sign than a minus in front of it, and is no name. -/
theorem read?_signed (negative : Bool) {c : Char} {cs : List Char} (hc : c.isDigit = true) :
    read? (String.ofList (if negative then '-' :: c :: cs else c :: cs)) =
      (Decimal.read? (c :: cs)).map (ofDecimal negative) := by
  have hsigned : Decimal.signed (if negative then '-' :: c :: cs else c :: cs) = (negative, c :: cs) := by
    cases negative with
    | true => rfl
    | false =>
      rw [if_neg Bool.false_ne_true, Decimal.signed.eq_def]
      split
      · next heq => cases heq; cases hc
      · next heq => cases heq; cases hc
      · rfl
  have hname : ∀ name : String, name.toList.head?.any Char.isDigit = false →
      ¬ String.ofList ((c :: cs).map Char.toLower) = name := by
    rintro name hhead rfl
    have hlower : c.toLower = c := by
      simp only [Char.isDigit, Char.toLower, Bool.and_eq_true, decide_eq_true_eq] at hc ⊢
      grind
    rw [String.toList_ofList, List.map_cons, List.head?_cons, Option.any_some, hlower, hc] at hhead
    cases hhead
  rw [read?, String.toList_ofList, hsigned]
  dsimp only
  rw [if_neg (not_or.2 ⟨hname "inf" (by decide), hname "infinity" (by decide)⟩),
    if_neg (hname "nan" (by decide))]

/-- **Digits are read as the number that they spell.** -/
theorem read?_digits (hlength : (Nat.toDigits 10 n).length ≤ 400) :
    read? (String.ofList (Nat.toDigits 10 n)) = some (ofNat n) := by
  have hdecimal : Decimal.read? (Nat.toDigits 10 n) = some ⟨n, 0⟩ := by
    have hdigits : ∀ d ∈ Nat.toDigits 10 n, Decimal.isDigit d = true := fun d =>
      Decimal.isDigit_of_mem_toDigits
    rw [Decimal.read?, List.takeWhile_eq_self_iff.2 hdigits, List.dropWhile_eq_nil_iff.2 hdigits]
    simp [Decimal.ofDigits?_toDigits]
  obtain ⟨c, cs, hcs⟩ : ∃ c cs, Nat.toDigits 10 n = c :: cs :=
    List.exists_cons_of_ne_nil Nat.toDigits_ne_nil
  have hc : c.isDigit = true :=
    Decimal.isDigit_eq c ▸ Decimal.isDigit_of_mem_toDigits (hcs ▸ List.mem_cons_self)
  have hread := @read?_signed false c cs hc
  rw [if_neg Bool.false_ne_true, ← hcs, hdecimal, Option.map_some, ofDecimal_whole hlength] at hread
  exact hread

/-- A number of sixty-four bits has no more digits than are looked at. -/
theorem read?_toString (h : n < 2 ^ 64) : read? (toString n) = some (ofNat n) := by
  have hlength : (Nat.toDigits 10 n).length ≤ 400 := by
    have htwenty : (Nat.toDigits 10 n).length ≤ 20 :=
      (Nat.length_toDigits_le_iff (by decide) (by decide)).2 (by omega)
    omega
  rw [Nat.toString_eq_repr, Nat.repr_eq_ofList_toDigits, read?_digits hlength]

end Double

end Fieldbook
