import Fieldbook.Proofs.Double.Whole

/-!
# Whole numbers as they are shown

A whole number of up to sixty-four bits is rounded to a double that is whole as well
(`Magnitude.exists_whole`), and that double is shown with digits only (`Magnitude.exists_plain`): its
shortest decimal needs no places, for the search for it stops at the whole numbers if not before
(`Magnitude.searchGrids_found`, `Magnitude.searchGrids_whole`). Which number the digits spell is another question. It is one that rounds
to the same double, which below `2 ^ 53` is the number itself (`Magnitude.eq_of_admits`). No number rounds
to two doubles (`Magnitude.eq_of_admits_admits`), so doubles that are shown alike are the same
(`Double.ofNat_eq_of_plain_eq`).
-/

namespace Fieldbook

namespace Magnitude

/-! ## Rounding -/

theorem roundedQuotient_mul_mul (a b : Nat) {k : Nat} (hk : 0 < k) :
    roundedQuotient (a * k) (b * k) = roundedQuotient a b := by
  have hless : 2 * (a % b * k) < b * k ↔ 2 * (a % b) < b := by
    rw [← Nat.mul_assoc]
    exact Nat.mul_lt_mul_right hk
  have hmore : b * k < 2 * (a % b * k) ↔ b < 2 * (a % b) := by
    rw [← Nat.mul_assoc]
    exact Nat.mul_lt_mul_right hk
  rw [roundedQuotient, roundedQuotient, Nat.mul_div_mul_right a b hk, Nat.mul_mod_mul_right]
  simp only [hless, hmore]

theorem roundedQuotient_bounds (a b : Nat) :
    a / b ≤ roundedQuotient a b ∧ roundedQuotient a b ≤ a / b + 1 := by
  rw [roundedQuotient]
  split
  · omega
  · split <;> omega

variable {n : Nat}

/-- What a whole number with at least fifty-three bits is rounded to: bits below the first fifty-three
go, and what is left may carry. -/
theorem nearest_of_le (h : 2 ^ 52 ≤ n) :
    nearest n 1 =
      if roundedQuotient n (2 ^ (n.log2 - 52)) = 1 <<< 53 then
        make? (1 <<< 52) (n.log2 - 52 + 1074 + 1)
      else make? (roundedQuotient n (2 ^ (n.log2 - 52))) (n.log2 - 52 + 1074) := by
  have hpos : 0 < n := Nat.lt_of_lt_of_le (Nat.two_pow_pos 52) h
  have hlog : 52 ≤ n.log2 := (Nat.le_log2 (Nat.ne_of_gt hpos)).2 h
  obtain ⟨one, hone, hunit⟩ := exists_unitsPerOne
  have hlog2 : (n * unitsPerOne / 1).log2 - 52 = n.log2 - 52 + one := by
    rw [Nat.div_one, hunit, log2_mul_two_pow hpos]
    omega
  have hmantissa : roundedQuotient (n * unitsPerOne) (1 <<< (n.log2 - 52 + one)) =
      roundedQuotient n (2 ^ (n.log2 - 52)) := by
    rw [hunit, Nat.one_shiftLeft, Nat.pow_add]
    exact roundedQuotient_mul_mul n _ (Nat.two_pow_pos one)
  rw [nearest, nearestUnits, hlog2, hmantissa, hone]

/-- The first fifty-three bits of a number, rounded. -/
theorem roundedQuotient_log2 (h : 2 ^ 52 ≤ n) :
    2 ^ 52 ≤ roundedQuotient n (2 ^ (n.log2 - 52)) ∧
      roundedQuotient n (2 ^ (n.log2 - 52)) ≤ 2 ^ 53 := by
  have hne : n ≠ 0 := Nat.ne_of_gt (Nat.lt_of_lt_of_le (Nat.two_pow_pos 52) h)
  obtain ⟨k, hk⟩ : ∃ k, n.log2 = 52 + k := Nat.exists_eq_add_of_le ((Nat.le_log2 hne).2 h)
  have hleast : 2 ^ 52 * 2 ^ k ≤ n := by
    rw [← Nat.pow_add, ← hk]
    exact Nat.log2_self_le hne
  have hmost : n < 2 ^ 53 * 2 ^ k := by
    rw [← Nat.pow_add, show 53 + k = n.log2 + 1 by omega]
    exact Nat.lt_log2_self
  have hbounds := roundedQuotient_bounds n (2 ^ k)
  have hlow := (Nat.le_div_iff_mul_le (Nat.two_pow_pos k)).2 hleast
  have hhigh := (Nat.div_lt_iff_lt_mul (Nat.two_pow_pos k)).2 hmost
  rw [hk, Nat.add_sub_cancel_left]
  omega

/-- **A whole number with at least fifty-three bits is rounded to a whole number**, if it is not too
large. -/
theorem units_of_le (h : 2 ^ 52 ≤ n) (hn : n.log2 ≤ 900) :
    ∃ m, nearest n 1 = some m ∧ m.units =
      roundedQuotient n (2 ^ (n.log2 - 52)) * 2 ^ (n.log2 - 52) * unitsPerOne := by
  obtain ⟨hleast, hmost⟩ := roundedQuotient_log2 h
  obtain ⟨one, hone, hunit⟩ := exists_unitsPerOne
  rw [nearest_of_le h, hunit, ← hone]
  generalize roundedQuotient n (2 ^ (n.log2 - 52)) = q at hleast hmost ⊢
  simp only [Nat.one_shiftLeft]
  split
  · next hcarry =>
    have hcanonical : 2 ^ 52 < 1 <<< 53 ∧ n.log2 - 52 + one + 1 ≤ 2045 ∧
        (n.log2 - 52 + one + 1 = 0 ∨ 1 <<< 52 ≤ 2 ^ 52) := by
      refine ⟨by decide, by omega, .inr (by decide)⟩
    refine ⟨⟨2 ^ 52, _, hcanonical⟩, dif_pos hcanonical, ?_⟩
    rw [units, Nat.shiftLeft_eq, hcarry, Nat.mul_assoc, ← Nat.pow_add, ← Nat.pow_add, ← Nat.pow_add]
    dsimp only
    exact congrArg (2 ^ ·) (by omega)
  · next hcarry =>
    have hcanonical : q < 1 <<< 53 ∧ n.log2 - 52 + one ≤ 2045 ∧
        (n.log2 - 52 + one = 0 ∨ 1 <<< 52 ≤ q) := by
      rw [Nat.one_shiftLeft, Nat.one_shiftLeft]
      exact ⟨by omega, by omega, .inr hleast⟩
    refine ⟨⟨q, _, hcanonical⟩, dif_pos hcanonical, ?_⟩
    rw [units, Nat.shiftLeft_eq, Nat.pow_add, Nat.mul_assoc]

/-- **A whole number of sixty-four bits is rounded to a whole number**, which is the same up to
`2 ^ 53`. -/
theorem exists_whole (h : n < 2 ^ 64) :
    ∃ m w, nearest n 1 = some m ∧ m.units = w * unitsPerOne ∧ w ≤ 2 ^ 64 ∧ (n < 2 ^ 53 → w = n) := by
  by_cases hsmall : n < 2 ^ 53
  · obtain ⟨m, hm, hunits⟩ := nearest_of_lt hsmall
    exact ⟨m, n, hm, hunits, Nat.le_of_lt h, fun _ => rfl⟩
  · have hlarge : 2 ^ 52 ≤ n := by omega
    have hlog : n.log2 < 64 := (Nat.log2_lt (by omega)).2 h
    obtain ⟨m, hm, hunits⟩ := units_of_le hlarge (by omega)
    refine ⟨m, _, hm, hunits, ?_, fun hlt => absurd hlt hsmall⟩
    calc roundedQuotient n (2 ^ (n.log2 - 52)) * 2 ^ (n.log2 - 52)
        ≤ 2 ^ 53 * 2 ^ 11 :=
          Nat.mul_le_mul (roundedQuotient_log2 hlarge).2 (Nat.pow_le_pow_right (by decide) (by omega))
      _ = 2 ^ 64 := (Nat.pow_add 2 53 11).symm

/-! ## Shortest decimals -/

variable {m x y : Magnitude} {w v num den : Nat}

/-- How far down the interval of a magnitude goes, in quarters of the last bit. -/
def stepDown (m : Magnitude) : Nat := if m.mantissa = 2 ^ 52 ∧ 0 < m.exponent then 1 else 2

/-- What reads back lies between the bounds of the interval, and is none of them if the mantissa is odd. -/
theorem between_of_admits (h : m.admits num den = true) :
    (4 * m.mantissa - m.stepDown) * 2 ^ m.exponent * den ≤ 4 * num * unitsPerOne ∧
      4 * num * unitsPerOne ≤ (4 * m.mantissa + 2) * 2 ^ m.exponent * den ∧
      (m.mantissa % 2 = 1 →
        (4 * m.mantissa - m.stepDown) * 2 ^ m.exponent * den ≠ 4 * num * unitsPerOne ∧
          4 * num * unitsPerOne ≠ (4 * m.mantissa + 2) * 2 ^ m.exponent * den) := by
  simp only [admits, Nat.shiftLeft_eq, Nat.one_mul, Nat.mul_comm den, ← Nat.mul_assoc] at h
  rw [stepDown]
  split at h
  · have hin := of_decide_eq_true h
    exact ⟨hin.1, hin.2, fun hodd => by omega⟩
  · have hin := of_decide_eq_true h
    exact ⟨Nat.le_of_lt hin.1, Nat.le_of_lt hin.2, fun _ => ⟨Nat.ne_of_lt hin.1, Nat.ne_of_lt hin.2⟩⟩

/-- What reads back is not farther away than half of the last bit. -/
theorem bounds_of_admits (h : m.admits v 1 = true) :
    4 * m.units ≤ 4 * v * unitsPerOne + 2 * 2 ^ m.exponent ∧
      4 * v * unitsPerOne ≤ 4 * m.units + 2 * 2 ^ m.exponent := by
  obtain ⟨hlow, hhigh, -⟩ := between_of_admits h
  have hdown : m.stepDown ≤ 2 := by
    rw [stepDown]
    split <;> omega
  have hleast : (4 * m.mantissa - 2) * 2 ^ m.exponent ≤ (4 * m.mantissa - m.stepDown) * 2 ^ m.exponent :=
    Nat.mul_le_mul_right _ (by omega)
  rw [units, Nat.shiftLeft_eq]
  rw [Nat.sub_mul, Nat.mul_assoc 4 m.mantissa] at hleast
  rw [Nat.add_mul, Nat.mul_assoc 4 m.mantissa] at hhigh
  omega

/-- The last bit is not larger than the number, unless it is the smallest there is. -/
theorem two_pow_exponent_le (m : Magnitude) : 2 ^ m.exponent ≤ m.units + unitsPerOne := by
  rw [units, Nat.shiftLeft_eq]
  rcases Nat.eq_zero_or_pos m.mantissa with hzero | hpos
  · rcases m.canonical.2.2 with hexponent | hleast
    · rw [hexponent]
      exact Nat.le_add_left_of_le unitsPerOne_pos
    · rw [hzero] at hleast
      cases hleast
  · exact Nat.le_add_right_of_le (Nat.le_mul_of_pos_left _ hpos)

/-- Below `2 ^ 53` the last bit counts for one at most. -/
theorem two_pow_exponent_le_of_lt (hunits : m.units = w * unitsPerOne) (hw : w < 2 ^ 53) :
    2 ^ m.exponent ≤ unitsPerOne := by
  obtain ⟨one, -, hunit⟩ := exists_unitsPerOne
  rw [hunit]
  refine Nat.pow_le_pow_right (by decide) (Nat.le_of_not_lt fun hlt => ?_)
  have hmantissa : 2 ^ 52 ≤ m.mantissa := by
    rcases m.canonical.2.2 with hzero | hleast
    · omega
    · rwa [Nat.one_shiftLeft] at hleast
  have hmost : w * 2 ^ one < 2 ^ 53 * 2 ^ one := Nat.mul_lt_mul_of_pos_right hw (Nat.two_pow_pos one)
  have hleast : 2 ^ 53 * 2 ^ one ≤ m.mantissa * 2 ^ m.exponent :=
    calc 2 ^ 53 * 2 ^ one = 2 ^ 52 * 2 ^ (one + 1) := by
          rw [← Nat.pow_add, ← Nat.pow_add]
          exact congrArg (2 ^ ·) (by omega)
      _ ≤ m.mantissa * 2 ^ m.exponent :=
        Nat.mul_le_mul hmantissa (Nat.pow_le_pow_right (by decide) hlt)
  rw [units, Nat.shiftLeft_eq, hunit] at hunits
  omega

/-- **Below `2 ^ 53` a whole number is the only one that reads back as its double.** -/
theorem eq_of_admits (hunits : m.units = w * unitsPerOne) (hw : w < 2 ^ 53)
    (h : m.admits v 1 = true) : v = w := by
  have hlast := two_pow_exponent_le_of_lt hunits hw
  have hbounds := bounds_of_admits h
  have hpos := unitsPerOne_pos
  rw [hunits, Nat.mul_assoc 4 v] at hbounds
  rcases Nat.lt_trichotomy v w with hlt | heq | hlt
  · have hmore := Nat.mul_le_mul_right unitsPerOne hlt
    rw [Nat.succ_mul] at hmore
    omega
  · exact heq
  · have hmore := Nat.mul_le_mul_right unitsPerOne hlt
    rw [Nat.succ_mul] at hmore
    omega

/-- What is not below the magnitude and by less than half of the last bit above it reads back. -/
theorem admits_of_le (hlow : m.units * den ≤ num * unitsPerOne)
    (hhigh : 2 * (num * unitsPerOne) < 2 * (m.units * den) + 2 ^ m.exponent * den) :
    m.admits num den = true := by
  rw [units, Nat.shiftLeft_eq] at hlow hhigh
  simp only [admits, Nat.shiftLeft_eq, Nat.one_mul, Nat.mul_comm den]
  have hscale : 0 < 2 ^ m.exponent * den := by
    refine Nat.pos_of_ne_zero fun hzero => ?_
    rw [Nat.mul_assoc, hzero, Nat.mul_zero] at hhigh
    omega
  rw [Nat.mul_assoc] at hlow hhigh
  rw [Nat.mul_assoc 4 num]
  generalize num * unitsPerOne = value at hlow hhigh ⊢
  generalize 2 ^ m.exponent * den = scale at hlow hhigh hscale ⊢
  have hmost : value * 4 < (4 * m.mantissa + 2) * scale := by
    rw [Nat.add_mul, Nat.mul_assoc]
    omega
  have hside : 1 ≤ if m.mantissa = 2 ^ 52 ∧ 0 < m.exponent then 1 else 2 := by split <;> omega
  generalize (if m.mantissa = 2 ^ 52 ∧ 0 < m.exponent then 1 else 2) = below at hside ⊢
  have hleast : (4 * m.mantissa - below) * scale ≤ 4 * value := by
    rw [Nat.sub_mul, Nat.mul_assoc]
    omega
  split
  · exact decide_eq_true ⟨hleast, by omega⟩
  · next hodd =>
    have hpos := Nat.mul_le_mul_right scale (show 1 ≤ m.mantissa by omega)
    have hstep := Nat.mul_le_mul_right scale hside
    refine decide_eq_true ⟨?_, by omega⟩
    rw [Nat.sub_mul, Nat.mul_assoc]
    omega

/-- A whole number reads back as its double, if it is one. -/
theorem admits_self (hunits : m.units = w * unitsPerOne) : m.admits w 1 = true := by
  refine admits_of_le (by omega) ?_
  have hpos := Nat.two_pow_pos m.exponent
  omega

/-- **The interval of a magnitude ends where that of the next one begins**, and of two that meet one has an
odd mantissa. -/
theorem bounds_of_lt
    (h : x.exponent < y.exponent ∨ x.exponent = y.exponent ∧ x.mantissa < y.mantissa) :
    (4 * x.mantissa + 2) * 2 ^ x.exponent ≤ (4 * y.mantissa - y.stepDown) * 2 ^ y.exponent ∧
      ((4 * x.mantissa + 2) * 2 ^ x.exponent = (4 * y.mantissa - y.stepDown) * 2 ^ y.exponent →
        x.mantissa % 2 = 1 ∨ y.mantissa % 2 = 1) := by
  obtain ⟨hmost, -, hleastx⟩ := x.canonical
  obtain ⟨-, -, hleasty⟩ := y.canonical
  simp only [Nat.one_shiftLeft] at hmost hleastx hleasty
  have hpos : 0 < 2 ^ x.exponent := Nat.two_pow_pos _
  rcases h with hlt | ⟨heq, hlt⟩
  · -- The mantissa of the smaller one is not so large that a carry would not go beyond it.
    obtain ⟨k, hk⟩ : ∃ k, y.exponent = x.exponent + 1 + k := Nat.exists_eq_add_of_le hlt
    have hdown : y.stepDown = 1 ∨ y.stepDown = 2 ∧ 2 ^ 52 < y.mantissa := by
      rw [stepDown]
      split <;> omega
    have hscale : (4 * y.mantissa - y.stepDown) * 2 ^ y.exponent =
        (4 * y.mantissa - y.stepDown) * 2 * 2 ^ k * 2 ^ x.exponent := by
      rw [hk, Nat.pow_add, Nat.pow_succ]
      ring
    have hmore : (4 * y.mantissa - y.stepDown) * 2 ≤ (4 * y.mantissa - y.stepDown) * 2 * 2 ^ k :=
      Nat.le_mul_of_pos_right _ (Nat.two_pow_pos k)
    rw [hscale]
    refine ⟨Nat.mul_le_mul_right _ (by omega), fun hsame => .inl ?_⟩
    have hsame := Nat.eq_of_mul_eq_mul_right hpos hsame
    omega
  · have hdown : y.stepDown = 2 := by
      rw [stepDown, if_neg (by omega)]
    rw [hdown, ← heq]
    refine ⟨Nat.mul_le_mul_right _ (by omega), fun hsame => ?_⟩
    have hsame := Nat.eq_of_mul_eq_mul_right hpos hsame
    omega

theorem not_admits_of_lt (hden : 0 < den)
    (h : x.exponent < y.exponent ∨ x.exponent = y.exponent ∧ x.mantissa < y.mantissa)
    (hx : x.admits num den = true) : y.admits num den = false := by
  refine eq_false_of_ne_true fun hy => ?_
  obtain ⟨hle, hmeet⟩ := bounds_of_lt h
  obtain ⟨-, hhigh, hoddx⟩ := between_of_admits hx
  obtain ⟨hlow, -, hoddy⟩ := between_of_admits hy
  have hbetween := Nat.mul_le_mul_right den hle
  -- Nothing is left between the two but the bound in which they meet.
  have hodd := hmeet (Nat.eq_of_mul_eq_mul_right hden (by omega))
  rcases hodd with hodd | hodd
  · exact (hoddx hodd).2 (by omega)
  · exact (hoddy hodd).1 (by omega)

/-- **No number is rounded to two magnitudes.** -/
theorem eq_of_admits_admits (hden : 0 < den) (hx : x.admits num den = true)
    (hy : y.admits num den = true) : x = y := by
  have hxy : ¬ (x.exponent < y.exponent ∨ x.exponent = y.exponent ∧ x.mantissa < y.mantissa) := fun h => by
    cases hy.symm.trans (not_admits_of_lt hden h hx)
  have hyx : ¬ (y.exponent < x.exponent ∨ y.exponent = x.exponent ∧ y.mantissa < x.mantissa) := fun h => by
    cases hx.symm.trans (not_admits_of_lt hden h hy)
  have hexponent : x.exponent = y.exponent := by omega
  have hmantissa : x.mantissa = y.mantissa := by omega
  cases x
  cases y
  cases hexponent
  cases hmantissa
  rfl

/-- On a grid something is found if one of the two points around the magnitude reads back. -/
theorem onGrid?_ne_none {tie : TieRule} {exponent : Int} {c : Nat}
    (hc : c = x.units * (Decimal.ratio ⟨1, exponent⟩).2 / (unitsPerOne * (Decimal.ratio ⟨1, exponent⟩).1) ∨
      c = x.units * (Decimal.ratio ⟨1, exponent⟩).2 / (unitsPerOne * (Decimal.ratio ⟨1, exponent⟩).1) + 1)
    (h : x.admits (c * (Decimal.ratio ⟨1, exponent⟩).1) (Decimal.ratio ⟨1, exponent⟩).2 = true) :
    x.onGrid? tie exponent ≠ none := by
  rw [onGrid?]
  dsimp only
  split
  · split
    · exact Option.some_ne_none _
    · split
      · exact Option.some_ne_none _
      · cases tie with
        | up => exact Option.some_ne_none _
        | even => dsimp only; split <;> exact Option.some_ne_none _
  · exact Option.some_ne_none _
  · next hdown =>
    rcases hc with rfl | rfl
    · rw [if_pos h] at hdown
      cases hdown
    · rw [if_pos h]
      exact Option.some_ne_none _

/-- On the grid of the whole numbers something is found. -/
theorem onGrid?_zero (hunits : m.units = w * unitsPerOne) (tie : TieRule) :
    m.onGrid? tie 0 ≠ none := by
  have hone : Decimal.ratio ⟨1, 0⟩ = (1, 1) := by decide
  refine onGrid?_ne_none (c := w) (.inl ?_) ?_
  · rw [hone, Nat.mul_one, Nat.mul_one, hunits, Nat.mul_div_cancel w unitsPerOne_pos]
  · rw [hone, Nat.mul_one]
    exact admits_self hunits

/-- **The search for the shortest decimal stops** when it comes to a grid on which something is found, if it
begins above it and does not give up too early. On the grid before nothing was found. -/
theorem searchGrids_found (tie : TieRule) {count : Nat} {first last : Int} (hfirst : last ≤ first)
    (hcount : first < last + count) (hlast : x.onGrid? tie last ≠ none) :
    ∃ d, x.searchGrids tie count first = d ∧ last ≤ d.exponent ∧ d.exponent ≤ first ∧
      x.onGrid? tie d.exponent = some d ∧
      (d.exponent = first ∨ x.onGrid? tie (d.exponent + 1) = none) := by
  induction count generalizing first with
  | zero => omega
  | succ count ih =>
    rw [searchGrids]
    split
    · next d hd =>
      obtain ⟨rfl, -⟩ := admits_of_onGrid? hd
      exact ⟨d, rfl, hfirst, Int.le_refl _, hd, .inl rfl⟩
    · next hnone =>
      have hne : first ≠ last := fun heq => hlast (heq ▸ hnone)
      obtain ⟨d, hd, hleast, hmost, hfound, hbefore⟩ := @ih (first - 1) (by omega) (by omega)
      refine ⟨d, hd, hleast, by omega, hfound, .inr (hbefore.elim (fun heq => ?_) id)⟩
      rwa [heq, Int.sub_add_cancel]

theorem ne_zero_of_units (hunits : m.units = w * unitsPerOne) (h : 0 < w) : m ≠ .zero := by
  rintro rfl
  have hzero : (0 : Nat) = w * unitsPerOne := hunits
  exact absurd hzero (Nat.ne_of_lt (Nat.mul_pos h unitsPerOne_pos))

/-- The search for the shortest decimal of a whole number begins above the whole numbers, and not so far above
that it would give up before them. -/
theorem tenAbove_whole (hunits : m.units = w * unitsPerOne) (hpos : 0 < w) (hw : w ≤ 2 ^ 64) :
    0 ≤ m.tenAbove ∧ m.tenAbove.toNat < 24 := by
  obtain ⟨one, hone, hunit⟩ := exists_unitsPerOne
  have hlog2 : m.units.log2 = w.log2 + one := by rw [hunits, hunit, log2_mul_two_pow hpos]
  have hmost : w.log2 < 65 := (Nat.log2_lt (by omega)).2 (by omega)
  rw [tenAbove, hlog2]
  omega

/-- The search for the shortest decimal of a whole number stops at the whole numbers. -/
theorem searchGrids_whole (hunits : m.units = w * unitsPerOne) (tie : TieRule) {count : Nat}
    {exponent : Int} (hfirst : 0 ≤ exponent) (hcount : exponent.toNat < count) :
    0 ≤ (m.searchGrids tie count exponent).exponent ∧
      m.admits ((m.searchGrids tie count exponent).coefficient *
        10 ^ (m.searchGrids tie count exponent).exponent.toNat) 1 = true := by
  have hcount : exponent < 0 + (count : Int) := by omega
  obtain ⟨d, hd, hleast, -, hfound, -⟩ := searchGrids_found tie hfirst hcount (onGrid?_zero hunits tie)
  have hadmits := (admits_of_onGrid? hfound).2
  have hratio : Decimal.ratio ⟨1, d.exponent⟩ = (10 ^ d.exponent.toNat, 1) := by
    rw [Decimal.ratio, if_pos hleast, Nat.one_mul]
    rfl
  rw [hratio] at hadmits
  rw [hd]
  exact ⟨hleast, hadmits⟩

/-! ## Digits -/

/-- Zeros behind the digits are powers of ten. -/
theorem toDigits_mul_pow {c : Nat} (hc : 0 < c) (k : Nat) :
    Nat.toDigits 10 (c * 10 ^ k) = Nat.toDigits 10 c ++ List.replicate k '0' := by
  induction k with
  | zero => simp
  | succ k ih =>
    have hpos : 0 < c * 10 ^ k := Nat.mul_pos hc (Nat.pow_pos (by decide))
    have happend := @Nat.toDigits_append_toDigits 10 (c * 10 ^ k) 0 (by decide) hpos
      (by decide)
    rw [List.replicate_succ', ← List.append_assoc, ← ih]
    rw [Nat.pow_succ, ← Nat.mul_assoc, Nat.mul_comm _ 10]
    exact happend.symm

/-- **A whole number of up to sixty-four bits is shown with digits only**, which spell a number that
reads back as its double. -/
theorem exists_plain (hunits : m.units = w * unitsPerOne) (hw : w ≤ 2 ^ 64) :
    ∃ v, (Double.finite false m).plain = toString v ∧ m.admits v 1 = true := by
  have hwhole := wholePart_of_units hunits
  rw [Double.plain, isWhole_of_units hunits, hwhole, Bool.true_and]
  by_cases hsmall : w < 10 ^ 15
  · have hshort : decide (w < Decimal.tenTo 15) = true := decide_eq_true hsmall
    refine ⟨w, ?_, admits_self hunits⟩
    rw [hshort]
    simp
  · have hlong : decide (w < Decimal.tenTo 15) = false := decide_eq_false hsmall
    have hpos : 0 < w := by omega
    obtain ⟨hleast, hmost⟩ := tenAbove_whole hunits hpos hw
    obtain ⟨hexponent, hadmits⟩ := searchGrids_whole hunits .up hleast hmost
    have hcoefficient := coefficient_shortest (ne_zero_of_units hunits hpos) .up
    rw [shortest] at hcoefficient
    refine ⟨_, ?_, hadmits⟩
    rw [hlong, if_neg Bool.false_ne_true, Nat.toString_eq_repr, Nat.repr_eq_ofList_toDigits,
      toDigits_mul_pow hcoefficient]
    dsimp only
    rw [shortest, if_pos hexponent]
    rfl

end Magnitude

namespace Double

variable {n : Nat}

/-- **A number of sixty-four bits is shown as a number** that may be another one, but not beyond
`2 ^ 53`. -/
theorem exists_plain_ofNat (h : n < 2 ^ 64) :
    ∃ v, (ofNat n).plain = toString v ∧ v < 2 ^ 66 ∧ (n ≤ 2 ^ 53 → v = n) := by
  by_cases hcarry : n = 2 ^ 53
  · have hplain : (ofNat (2 ^ 53)).plain = toString (2 ^ 53) := by decide +kernel
    rw [hcarry]
    exact ⟨2 ^ 53, hplain, Nat.pow_lt_pow_right (by omega) (by omega), fun _ => rfl⟩
  · obtain ⟨m, w, hm, hunits, hw, hsame⟩ := Magnitude.exists_whole h
    obtain ⟨v, hplain, hadmits⟩ := Magnitude.exists_plain hunits hw
    refine ⟨v, by rw [ofNat, hm]; exact hplain, ?_, fun hle => ?_⟩
    · -- What reads back is not half as large again.
      have hlast := m.two_pow_exponent_le
      have hbounds := (Magnitude.bounds_of_admits hadmits).2
      by_contra hlarge
      have hmany := Nat.mul_le_mul_right Magnitude.unitsPerOne (Nat.le_of_not_lt hlarge)
      have hfew := Nat.mul_le_mul_right Magnitude.unitsPerOne hw
      have hpos := Magnitude.unitsPerOne_pos
      rw [Nat.mul_assoc 4 v] at hbounds
      omega
    · have hwn := hsame (by omega)
      exact (Magnitude.eq_of_admits hunits (by omega) hadmits).trans hwn

/-- What is shown of a number of sixty-four bits is read as its double again. -/
theorem exists_admits_ofNat (h : n < 2 ^ 64) :
    ∃ m v, ofNat n = .finite false m ∧ (ofNat n).plain = toString v ∧ m.admits v 1 = true := by
  obtain ⟨m, w, hm, hunits, hw, -⟩ := Magnitude.exists_whole h
  obtain ⟨v, hplain, hadmits⟩ := Magnitude.exists_plain hunits hw
  have hfinite : ofNat n = .finite false m := by rw [ofNat, hm, signed]
  exact ⟨m, v, hfinite, by rw [hfinite, hplain], hadmits⟩

/-- **Numbers of sixty-four bits that are shown alike have the same double.** -/
theorem ofNat_eq_of_plain_eq {k : Nat} (hn : n < 2 ^ 64) (hk : k < 2 ^ 64)
    (h : (ofNat k).plain = (ofNat n).plain) : ofNat k = ofNat n := by
  obtain ⟨m, v, hfinite, hplain, hadmits⟩ := exists_admits_ofNat hn
  obtain ⟨m', v', hfinite', hplain', hadmits'⟩ := exists_admits_ofNat hk
  rw [hplain, hplain'] at h
  have hsame : v' = v := by simpa using congrArg String.toNat? h
  rw [hsame] at hadmits'
  rw [hfinite, hfinite', Magnitude.eq_of_admits_admits Nat.one_pos hadmits' hadmits]

/-- A number below `2 ^ 53` shares its double with no other. -/
theorem ofNat_eq_iff_of_lt {k : Nat} (hn : n < 2 ^ 53) (hk : k < 2 ^ 64) :
    ofNat k = ofNat n ↔ k = n := by
  refine ⟨fun hsame => ?_, fun heq => heq ▸ rfl⟩
  obtain ⟨m, hm, hunits⟩ := Magnitude.nearest_of_lt hn
  rw [ofNat, ofNat, hm, signed] at hsame
  by_cases hsmall : k < 2 ^ 53
  · obtain ⟨m', hm', hunits'⟩ := Magnitude.nearest_of_lt hsmall
    rw [hm', signed] at hsame
    cases hsame
    exact Nat.eq_of_mul_eq_mul_right Magnitude.unitsPerOne_pos (hunits'.symm.trans hunits)
  · -- Rounding does not lead below `2 ^ 53`.
    have hlog : 53 ≤ k.log2 := (Nat.le_log2 (by omega)).2 (by omega)
    have hlog' : k.log2 < 64 := (Nat.log2_lt (by omega)).2 hk
    obtain ⟨m', hm', hunits'⟩ := @Magnitude.units_of_le k (by omega) (by omega)
    rw [hm', signed] at hsame
    cases hsame
    have hwhole := Nat.eq_of_mul_eq_mul_right Magnitude.unitsPerOne_pos (hunits'.symm.trans hunits)
    have hleast : 2 ^ 52 * 2 ^ 1 ≤ n := by
      rw [← hwhole]
      exact Nat.mul_le_mul (Magnitude.roundedQuotient_log2 (by omega)).1
        (Nat.pow_le_pow_right (by decide) (by omega))
    omega

/-- The largest numbers of sixty-four bits are shown as one that has more. -/
theorem plain_ofNat_of_le (h : 2 ^ 64 - 1024 ≤ n) (hn : n < 2 ^ 64) :
    (ofNat n).plain = "18446744073709552000" := by
  have hlog : n.log2 = 63 := (Nat.log2_eq_iff (by omega)).2 (by omega)
  have hcarry : Magnitude.roundedQuotient n (2 ^ (63 - 52)) = 1 <<< 53 := by
    have hquotient : n / 2048 = 2 ^ 53 - 1 := by omega
    have hremainder : 1024 ≤ n % 2048 := by omega
    rw [show 2 ^ (63 - 52) = 2048 by decide, Magnitude.roundedQuotient, hquotient,
      if_neg (by omega)]
    split <;> decide
  rw [ofNat, Magnitude.nearest_of_le (by omega), hlog, if_pos hcarry]
  decide +kernel

/-- A number beyond a limit of sixty-four bits is not truncated to one below it. -/
theorem truncated?_ofNat_of_le (h : 2 ^ 64 ≤ n) (hn : n < 2 ^ 66) :
    truncated? (2 ^ 64 - 1) (ofNat n) = none := by
  have hlog : n.log2 < 66 := (Nat.log2_lt (by omega)).2 hn
  have hleast : 64 ≤ n.log2 := (Nat.le_log2 (by omega)).2 h
  obtain ⟨m, hm, hunits⟩ := @Magnitude.units_of_le n (by omega) (by omega)
  have hlarge : 2 ^ 64 * Magnitude.unitsPerOne ≤ m.units := by
    rw [hunits]
    refine Nat.mul_le_mul_right _ ?_
    calc 2 ^ 64 ≤ 2 ^ 52 * 2 ^ (n.log2 - 52) := by
          rw [← Nat.pow_add]
          exact Nat.pow_le_pow_right (by decide) (by omega)
      _ ≤ _ := Nat.mul_le_mul_right _ (Magnitude.roundedQuotient_log2 (by omega)).1
  have hpos := Magnitude.unitsPerOne_pos
  have hbeyond : decide (m.units ≤ (2 ^ 64 - 1) * Magnitude.unitsPerOne) = false :=
    decide_eq_false (by omega)
  rw [ofNat, hm, signed, truncated?, hbeyond, Bool.and_false]
  rfl

end Double

end Fieldbook
