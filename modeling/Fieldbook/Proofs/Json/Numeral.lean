import Fieldbook.Json.Numeral
import Mathlib.Tactic.Common

/-!
# The numerals that are written

A numeral is written for a natural number (`Numeral.ofNat`) or for a double (`Numeral.ofDouble?`). Either
way it is one that the grammar of documents knows (`WellFormed`): `wellFormed_ofNat`,
`wellFormed_of_ofDouble?`.

For a double this comes down to one question, for a number in front of which no zero may stand must not
begin with one: the shortest decimal of a magnitude other than zero is not zero
(`Magnitude.coefficient_shortest`), because nothing but zero reads as zero (`Magnitude.admits_zero`).

The numeral of a decimal is never one of a whole number (`isInteger_ofDecimal`): it has decimal places or an
exponent. A number without a minus, as it stands outside documents, is read from what spells it and from
nothing else (`Decimal.readNat?_eq_some_iff`).
-/

namespace Fieldbook

/-! ## Digits -/

namespace Decimal

theorem digit?_eq (c : Char) : digit? c = if c.isDigit then some (c.toNat - '0'.toNat) else none := by
  have hiff : ('0' ≤ c ∧ c ≤ '9') ↔ c.isDigit = true := by simp [Char.isDigit, Char.le_def]
  simp only [digit?, hiff]

theorem isDigit_eq (c : Char) : isDigit c = c.isDigit := by
  rw [isDigit, digit?_eq]
  cases c.isDigit <;> rfl

/-- Digits spell a number, whatever they begin with. -/
theorem ofDigits?_eq {cs : List Char} (h : ∀ c ∈ cs, isDigit c = true) :
    ofDigits? cs = some (Nat.ofDigitChars 10 cs 0) := by
  rw [ofDigits?]
  generalize 0 = n
  induction cs generalizing n with
  | nil => rfl
  | cons c cs ih =>
    have hc : digit? c = some (c.toNat - '0'.toNat) := by
      rw [digit?_eq, if_pos (isDigit_eq c ▸ h c List.mem_cons_self)]
    rw [List.foldlM_cons, hc, Nat.ofDigitChars_cons]
    exact ih (fun d hd => h d (List.mem_cons_of_mem c hd)) _

theorem isDigit_of_mem_toDigits {n : Nat} {c : Char} (h : c ∈ Nat.toDigits 10 n) :
    isDigit c = true :=
  (isDigit_eq c).trans (Nat.isDigit_of_mem_toDigits (by decide) (by decide) h)

/-- A number's digits spell it. -/
theorem ofDigits?_toDigits (n : Nat) : ofDigits? (Nat.toDigits 10 n) = some n := by
  rw [ofDigits?_eq fun _ => isDigit_of_mem_toDigits, Nat.ofDigitChars_ten_toDigits]

/-- What spells a number is nothing but digits. -/
theorem ofDigits?_eq_some_iff {cs : List Char} {n : Nat} :
    ofDigits? cs = some n ↔ (∀ c ∈ cs, isDigit c = true) ∧ Nat.ofDigitChars 10 cs 0 = n := by
  have hdigits : ∀ {start : Nat}, cs.foldlM (fun n c => (digit? c).map (10 * n + ·)) start = some n →
      ∀ c ∈ cs, isDigit c = true := by
    induction cs with
    | nil => exact fun _ => nofun
    | cons c cs ih =>
      intro start h
      rw [List.foldlM_cons] at h
      obtain ⟨next, hnext, h⟩ := Option.bind_eq_some_iff.1 h
      obtain ⟨value, hvalue, -⟩ := Option.map_eq_some_iff.1 hnext
      exact List.forall_mem_cons.2 ⟨Option.isSome_of_eq_some hvalue, ih h⟩
  constructor
  · intro h
    exact ⟨hdigits h, Option.some.inj ((ofDigits?_eq (hdigits h)).symm.trans h)⟩
  · rintro ⟨h, rfl⟩
    exact ofDigits?_eq h

/-- The characters spell the number: they are its digits, with or without zeros in front and a plus before
them all. -/
def Spells (cs : List Char) (n : Nat) : Prop :=
  ∃ digits, (cs = digits ∨ cs = '+' :: digits) ∧ digits ≠ [] ∧ (∀ c ∈ digits, isDigit c = true) ∧
    Nat.ofDigitChars 10 digits 0 = n

/-- **A number without a minus is read from what spells one, within the limit.** -/
theorem readNat?_eq_some_iff {limit n : Nat} {cs : List Char} :
    readNat? limit cs = some n ↔ Spells cs n ∧ n ≤ limit := by
  -- The same is read from the digits whether the plus in front of them was dropped or was not there.
  have hread (digits : List Char) :
      (if digits.isEmpty then none else (ofDigits? digits).filter (· ≤ limit)) = some n ↔
        (digits ≠ [] ∧ (∀ c ∈ digits, isDigit c = true) ∧ Nat.ofDigitChars 10 digits 0 = n) ∧
          n ≤ limit := by
    simp only [Option.ite_none_left_eq_some, List.isEmpty_iff, Option.filter_eq_some_iff,
      ofDigits?_eq_some_iff, decide_eq_true_eq, ne_eq, and_assoc]
  rw [readNat?.eq_def]
  split
  · next more =>
    rw [hread]
    refine and_congr_left' ⟨fun h => ⟨more, .inr rfl, h⟩, ?_⟩
    rintro ⟨digits, rfl | heq, hspelled⟩
    · -- A plus is no digit.
      cases hspelled.2.1 '+' List.mem_cons_self
    · rwa [(List.cons.inj heq).2]
  · next hplus =>
    rw [hread]
    refine and_congr_left' ⟨fun h => ⟨cs, .inl rfl, h⟩, ?_⟩
    rintro ⟨digits, rfl | rfl, hspelled⟩
    · exact hspelled
    · exact absurd rfl (hplus digits)

/-- A number's digits are read as a number without sign, within the limit. -/
theorem readNat?_toDigits (limit n : Nat) :
    readNat? limit (Nat.toDigits 10 n) = if n ≤ limit then some n else none := by
  have hread : readNat? limit (Nat.toDigits 10 n) =
      (ofDigits? (Nat.toDigits 10 n)).filter (· ≤ limit) := by
    rw [readNat?.eq_def]
    split
    · next more heq =>
      have hplus : isDigit '+' = true := isDigit_of_mem_toDigits (heq ▸ List.mem_cons_self)
      cases hplus
    · exact if_neg (mt List.isEmpty_iff.1 Nat.toDigits_ne_nil)
  simp only [hread, ofDigits?_toDigits, Option.filter_some, decide_eq_true_eq]

/-- Only the digits of zero begin with a zero. -/
theorem eq_zero_of_toDigits {n : Nat} {cs : List Char} (h : Nat.toDigits 10 n = '0' :: cs) : n = 0 := by
  induction n using Nat.strongRecOn generalizing cs with
  | ind n ih =>
    rw [Nat.toDigits_eq_if (by decide)] at h
    split at h
    · exact Nat.digitChar_eq_zero.1 (List.cons.inj h).1
    · next hten =>
      cases hfront : Nat.toDigits 10 (n / 10) with
      | nil => exact absurd hfront Nat.toDigits_ne_nil
      | cons d ds =>
        rw [hfront, List.cons_append] at h
        have hzero := ih (n / 10) (by omega) ((List.cons.inj h).1 ▸ hfront)
        omega

end Decimal

/-! ## The shortest decimal -/

namespace Magnitude

variable {x : Magnitude}

theorem mantissa_pos (h : x ≠ .zero) : 0 < x.mantissa := by
  obtain ⟨mantissa, exponent, hcanonical⟩ := x
  refine Nat.pos_of_ne_zero fun (hmantissa : mantissa = 0) => h ?_
  subst hmantissa
  have hexponent : exponent = 0 := by simpa using hcanonical.2.2
  subst hexponent
  rfl

theorem units_pos (h : x ≠ .zero) : 0 < x.units := by
  rw [units, Nat.shiftLeft_eq]
  exact Nat.mul_pos (mantissa_pos h) (Nat.two_pow_pos _)

/-- Nothing but zero reads as zero. -/
theorem admits_zero (h : x ≠ .zero) {den : Nat} (hden : 0 < den) : x.admits 0 den = false := by
  have hmantissa := mantissa_pos h
  have hscale : 0 < den <<< x.exponent := by
    rw [Nat.shiftLeft_eq]
    exact Nat.mul_pos hden (Nat.two_pow_pos _)
  have hlow : ∀ below ≤ 2, 0 < (4 * x.mantissa - below) * den <<< x.exponent := fun below hbelow =>
    Nat.mul_pos (by omega) hscale
  have hbelow : (if x.mantissa = 1 <<< 52 ∧ 0 < x.exponent then 1 else 2) ≤ 2 := by split <;> omega
  have hpos := hlow _ hbelow
  simp only [admits, Nat.mul_zero, Nat.zero_mul]
  split
  · exact decide_eq_false fun hvalue => Nat.not_le.2 hpos hvalue.1
  · exact decide_eq_false fun hvalue => Nat.not_lt_zero _ hvalue.1

theorem ratio_pos (d : Decimal) : 0 < d.ratio.2 := by
  rw [Decimal.ratio]
  split
  · exact Nat.one_pos
  · exact Nat.pow_pos (by decide)

/-- What is found on a grid is on it, and reads back. -/
theorem admits_of_onGrid? {tie : TieRule} {exponent : Int} {d : Decimal}
    (h : x.onGrid? tie exponent = some d) :
    d.exponent = exponent ∧
      x.admits (d.coefficient * (Decimal.ratio ⟨1, exponent⟩).1) (Decimal.ratio ⟨1, exponent⟩).2 =
        true := by
  have hcandidate : ∀ c, (if x.admits (c * (Decimal.ratio ⟨1, exponent⟩).1)
      (Decimal.ratio ⟨1, exponent⟩).2 then some (⟨c, exponent⟩ : Decimal) else none) = some d →
      d.exponent = exponent ∧ x.admits (d.coefficient * (Decimal.ratio ⟨1, exponent⟩).1)
        (Decimal.ratio ⟨1, exponent⟩).2 = true := by
    intro c hd
    split at hd
    · next hadmits => cases hd; exact ⟨rfl, hadmits⟩
    · cases hd
  rw [onGrid?] at h
  dsimp only at h
  split at h
  · next hdown hup =>
    rw [← hdown, ← hup] at h
    split at h
    · exact hcandidate _ h
    · split at h
      · exact hcandidate _ h
      · cases tie with
        | up => exact hcandidate _ h
        | even =>
          dsimp only at h
          split at h
          · exact hcandidate _ h
          · exact hcandidate _ h
  · next hdown hup =>
    rw [← hdown] at h
    exact hcandidate _ h
  · exact hcandidate _ h

theorem coefficient_searchGrids (h : x ≠ .zero) (tie : TieRule) (count : Nat) (exponent : Int) :
    0 < (x.searchGrids tie count exponent).coefficient := by
  induction count generalizing exponent with
  | zero => exact units_pos h
  | succ count ih =>
    rw [searchGrids]
    split
    · next d hd =>
      refine Nat.pos_of_ne_zero fun hzero => ?_
      have hadmits := (admits_of_onGrid? hd).2
      rw [hzero, Nat.zero_mul, admits_zero h (ratio_pos _)] at hadmits
      cases hadmits
    · exact ih (exponent - 1)

/-- The shortest decimal of a magnitude other than zero is not zero. -/
theorem coefficient_shortest (h : x ≠ .zero) (tie : TieRule) : 0 < (x.shortest tie).coefficient :=
  coefficient_searchGrids h tie 24 x.tenAbove

end Magnitude

/-! ## Numerals -/

namespace Numeral

/-- What the grammar asks of a numeral: there are digits before the point, the first of which is no zero
unless it is alone, and the places behind the point are digits. -/
structure WellFormed (n : Numeral) : Prop where
  whole_ne_nil : n.whole ≠ []
  whole : ∀ c ∈ n.whole, Decimal.isDigit c = true
  leading : ∀ cs, n.whole = '0' :: cs → cs = []
  fraction : ∀ c ∈ n.fraction, Decimal.isDigit c = true

theorem leading_toDigits {n : Nat} {cs : List Char} (h : Nat.toDigits 10 n = '0' :: cs) : cs = [] := by
  rw [Decimal.eq_zero_of_toDigits h, Nat.toDigits_zero] at h
  exact (List.cons.inj h).2.symm

theorem wellFormed_ofNat (n : Nat) : (ofNat n).WellFormed where
  whole_ne_nil := Nat.toDigits_ne_nil
  whole _ := Decimal.isDigit_of_mem_toDigits
  leading _ := leading_toDigits
  fraction := by simp [ofNat]

/-- A natural number within the limit reads as itself. -/
theorem toNat?_ofNat {n limit : Nat} (h : n ≤ limit) : (ofNat n).toNat? limit = some n := by
  simp [toNat?, isInteger, ofNat, Decimal.ofDigits?_toDigits, h]

/-- Digits that begin with another one than zero may stand before the point. -/
theorem wellFormed_of_cons {n : Numeral} {c : Char} {cs : List Char} (h : n.whole = c :: cs)
    (hc : c ≠ '0') (hwhole : ∀ d ∈ n.whole, Decimal.isDigit d = true)
    (hfraction : ∀ d ∈ n.fraction, Decimal.isDigit d = true) : n.WellFormed where
  whole_ne_nil := by rw [h]; exact List.cons_ne_nil c cs
  whole := hwhole
  leading _ hzero := absurd (List.cons.inj (h.symm.trans hzero)).1 hc
  fraction := hfraction

/-- Nothing but digits behind a zero alone. -/
theorem wellFormed_of_zero {n : Numeral} (h : n.whole = ['0'])
    (hfraction : ∀ d ∈ n.fraction, Decimal.isDigit d = true) : n.WellFormed where
  whole_ne_nil := by rw [h]; exact List.cons_ne_nil _ _
  whole c hc := by
    rw [h, List.mem_singleton] at hc
    rw [hc]
    rfl
  leading _ hzero := (List.cons.inj (h.symm.trans hzero)).2.symm
  fraction := hfraction

theorem isDigit_of_mem_replicate {k : Nat} {c : Char} (h : c ∈ List.replicate k '0') :
    Decimal.isDigit c = true := by
  rw [List.eq_of_mem_replicate h]
  decide

theorem wellFormed_ofDecimal (negative : Bool) {d : Decimal} (h : 0 < d.coefficient) :
    (ofDecimal negative d).WellFormed := by
  obtain ⟨c, cs, hcs⟩ : ∃ c cs, d.digits = c :: cs :=
    List.exists_cons_of_ne_nil Nat.toDigits_ne_nil
  have hc : c ≠ '0' := by
    rintro rfl
    exact Nat.ne_of_gt h (Decimal.eq_zero_of_toDigits hcs)
  have hdigits : ∀ c ∈ d.digits, Decimal.isDigit c = true := fun _ =>
    Decimal.isDigit_of_mem_toDigits
  unfold ofDecimal
  dsimp only
  split
  · refine wellFormed_of_cons (congrArg (· ++ _) hcs) hc (fun e he => ?_) (by simp; decide)
    exact (List.mem_append.1 he).elim (hdigits e) isDigit_of_mem_replicate
  · split
    · next hpoint =>
      have htake : d.digits.take d.point.toNat = c :: cs.take (d.point.toNat - 1) := by
        rw [hcs, List.take_cons (by omega)]
      exact wellFormed_of_cons htake hc (fun e he => hdigits e (List.mem_of_mem_take he))
        fun e he => hdigits e (List.mem_of_mem_drop he)
    · split
      · exact wellFormed_of_zero rfl fun e he =>
          (List.mem_append.1 he).elim isDigit_of_mem_replicate (hdigits e)
      · exact wellFormed_of_cons (congrArg (List.take 1) hcs) hc
          (fun e he => hdigits e (List.mem_of_mem_take he))
          fun e he => hdigits e (List.mem_of_mem_drop he)

/-- **A double is written as a numeral that the grammar knows.** -/
theorem wellFormed_of_ofDouble? {x : Double} {n : Numeral} (h : ofDouble? x = some n) :
    n.WellFormed := by
  cases x with
  | notANumber => cases h
  | infinite negative => cases h
  | finite negative m =>
    rw [ofDouble?] at h
    split at h
    · cases h
      exact wellFormed_of_zero rfl (by simp; decide)
    · next hm =>
      cases h
      exact wellFormed_ofDecimal negative (Magnitude.coefficient_shortest hm .even)

/-! ## Numerals that are no whole numbers -/

/-- The numeral of a decimal has decimal places or an exponent. -/
theorem isInteger_ofDecimal (negative : Bool) (d : Decimal) :
    (ofDecimal negative d).isInteger = false := by
  have hpos : 0 < d.digits.length := Nat.length_toDigits_pos
  have hpoint : d.point = d.digits.length + d.exponent := rfl
  rw [ofDecimal]
  dsimp only
  split
  · rfl
  · split
    · have hplaces : 0 < (d.digits.drop d.point.toNat).length := by
        rw [List.length_drop]
        omega
      simp [isInteger, List.isEmpty_eq_false_iff, List.ne_nil_of_length_pos hplaces]
    · split
      · simp [isInteger, List.isEmpty_eq_false_iff, List.ne_nil_of_length_pos hpos]
      · simp [isInteger]

end Numeral
end Fieldbook
