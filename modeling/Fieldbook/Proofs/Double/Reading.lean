import Fieldbook.Proofs.Double.Natural
import Fieldbook.Proofs.Double.Shortest
import Fieldbook.Proofs.Text.Items

/-!
# Numbers that are shown, read

**A finite number is read from the text that it shows** (`Double.read?_plain`), negative zero excepted, which
shows like the other one.

A text is read as a decimal, digit by digit (`Decimal.read?_digits`, `Decimal.read?_point`). What is shown is
the digits of a whole number, or the shortest decimal with its point in one of three places, and it spells
that decimal in each of them (`Decimal.read?_body`). A decimal that reads back as a magnitude is rounded to it
(`Double.ofDecimal_of_admits`).
-/

namespace Fieldbook

namespace Decimal

variable {whole fraction : List Char}

/-- Digits alone. -/
theorem read?_digits (hne : whole ≠ []) (hwhole : ∀ c ∈ whole, isDigit c = true) :
    read? whole = some ⟨Nat.ofDigitChars 10 whole 0, 0⟩ := by
  rw [read?, List.takeWhile_eq_self_iff.2 hwhole, List.dropWhile_eq_nil_iff.2 hwhole]
  simp [hne, ofDigits?_eq hwhole]

/-- Digits, a point, and digits. -/
theorem read?_point (hne : whole ≠ []) (hwhole : ∀ c ∈ whole, isDigit c = true)
    (hfraction : ∀ c ∈ fraction, isDigit c = true) :
    read? (whole ++ '.' :: fraction) =
      some ⟨Nat.ofDigitChars 10 (whole ++ fraction) 0, -(fraction.length : Int)⟩ := by
  have hpoint : isDigit '.' = false := by decide
  have hall : ∀ c ∈ whole ++ fraction, isDigit c = true := fun c hc =>
    (List.mem_append.1 hc).elim (hwhole c) (hfraction c)
  have htake : (whole ++ '.' :: fraction).takeWhile isDigit = whole := by
    rw [List.takeWhile_append_of_pos hwhole, List.takeWhile_cons, hpoint]
    simp
  have hdrop : (whole ++ '.' :: fraction).dropWhile isDigit = '.' :: fraction := by
    rw [List.dropWhile_append_of_pos hwhole, List.dropWhile_cons, hpoint]
    simp
  rw [read?, htake, hdrop]
  simp [List.takeWhile_eq_self_iff.2 hfraction, List.dropWhile_eq_nil_iff.2 hfraction, hne,
    ofDigits?_eq hall]

/-- Zeros in front of digits do not count. -/
theorem ofDigitChars_replicate (k : Nat) (cs : List Char) :
    Nat.ofDigitChars 10 (List.replicate k '0' ++ cs) 0 = Nat.ofDigitChars 10 cs 0 := by
  induction k with
  | zero => rfl
  | succ k ih => rw [List.replicate_succ, List.cons_append, Nat.ofDigitChars_cons, ← ih]; rfl

/-- A decimal written out in full, its point in one of three places. -/
def body (d : Decimal) : List Char :=
  if 0 ≤ d.exponent then d.digits ++ List.replicate d.exponent.toNat '0'
  else if 0 < d.point then d.digits.take d.point.toNat ++ '.' :: d.digits.drop d.point.toNat
  else '0' :: '.' :: List.replicate (-d.point).toNat '0' ++ d.digits

theorem isDigit_of_mem_digits {d : Decimal} {c : Char} (h : c ∈ d.digits) : isDigit c = true :=
  isDigit_of_mem_toDigits h

theorem digits_ne_nil (d : Decimal) : d.digits ≠ [] := Nat.toDigits_ne_nil

theorem exists_digits_cons (d : Decimal) : ∃ c cs, d.digits = c :: cs ∧ c.isDigit = true := by
  obtain ⟨c, cs, hcs⟩ := List.exists_cons_of_ne_nil d.digits_ne_nil
  exact ⟨c, cs, hcs, isDigit_eq c ▸ isDigit_of_mem_digits (hcs ▸ List.mem_cons_self)⟩

/-- It begins with a digit. -/
theorem exists_body_cons (d : Decimal) : ∃ c cs, d.body = c :: cs ∧ c.isDigit = true := by
  obtain ⟨c, cs, hcs, hc⟩ := d.exists_digits_cons
  rw [body]
  split
  · exact ⟨c, _, by rw [hcs, List.cons_append], hc⟩
  · split
    · next hpos => exact ⟨c, _, by rw [hcs, List.take_cons (by omega), List.cons_append], hc⟩
    · exact ⟨'0', _, rfl, by decide⟩

/-- It is digits and perhaps a point. -/
theorem mem_body {d : Decimal} {c : Char} (h : c ∈ d.body) : c.isDigit = true ∨ c = '.' := by
  have hdigits : ∀ c ∈ d.digits, c.isDigit = true := fun c hc => isDigit_eq c ▸ isDigit_of_mem_digits hc
  have hzeros : ∀ k, ∀ c ∈ List.replicate k '0', c.isDigit = true := fun k c hc =>
    isDigit_eq c ▸ Numeral.isDigit_of_mem_replicate hc
  rw [body] at h
  split at h
  · exact .inl ((List.mem_append.1 h).elim (hdigits c) (hzeros _ c))
  · split at h
    · rcases List.mem_append.1 h with h | h
      · exact .inl (hdigits c (List.mem_of_mem_take h))
      · rcases List.mem_cons.1 h with rfl | h
        · exact .inr rfl
        · exact .inl (hdigits c (List.mem_of_mem_drop h))
    · rcases List.mem_cons.1 h with rfl | h
      · exact .inl rfl
      · rcases List.mem_cons.1 h with rfl | h
        · exact .inr rfl
        · exact .inl ((List.mem_append.1 h).elim (hzeros _ c) (hdigits c))

/-- **A decimal written out in full spells itself**, perhaps with zeros behind it instead of a power of
ten. -/
theorem read?_body {d : Decimal} (h : 0 < d.coefficient) :
    ∃ d', read? d.body = some d' ∧ 0 < d'.coefficient ∧ d'.ratio = d.ratio ∧ d'.point = d.point := by
  have hdigits : ∀ c ∈ d.digits, isDigit c = true := fun c => isDigit_of_mem_digits
  have hpoint : d.point = d.digits.length + d.exponent := rfl
  have hspelled : Nat.ofDigitChars 10 d.digits 0 = d.coefficient := Nat.ofDigitChars_ten_toDigits
  rw [body]
  split
  · next hwhole =>
    have hall : d.digits ++ List.replicate d.exponent.toNat '0' =
        Nat.toDigits 10 (d.coefficient * 10 ^ d.exponent.toNat) :=
      (Magnitude.toDigits_mul_pow h _).symm
    have hpow : 0 < 10 ^ d.exponent.toNat := Nat.pow_pos (by decide)
    have hread := @read?_digits (Nat.toDigits 10 (d.coefficient * 10 ^ d.exponent.toNat))
      Nat.toDigits_ne_nil fun c => isDigit_of_mem_toDigits
    rw [Nat.ofDigitChars_ten_toDigits] at hread
    refine ⟨_, hall ▸ hread, Nat.mul_pos h hpow, ?_, ?_⟩
    · simp [ratio, hwhole, tenTo]
    · rw [hpoint, point, digits, ← hall]
      simp [hwhole]
  · split
    · next hsmall hpos =>
      have hne : d.digits.take d.point.toNat ≠ [] := by
        simp [digits_ne_nil]
        omega
      have hread := read?_point hne (fun c hc => hdigits c (List.mem_of_mem_take hc))
        fun c hc => hdigits c (List.mem_of_mem_drop (i := d.point.toNat) hc)
      rw [List.take_append_drop, hspelled, List.length_drop] at hread
      have hexponent : -((d.digits.length - d.point.toNat : ℕ) : Int) = d.exponent := by omega
      rw [hexponent] at hread
      exact ⟨_, hread, h, rfl, rfl⟩
    · next hsmall hneg =>
      have hread := @read?_point (List.replicate 1 '0') (List.replicate (-d.point).toNat '0' ++ d.digits)
        (by simp) (fun c => Numeral.isDigit_of_mem_replicate) fun c hc =>
          (List.mem_append.1 hc).elim Numeral.isDigit_of_mem_replicate (hdigits c)
      have hexponent : -((List.replicate (-d.point).toNat '0' ++ d.digits).length : Int) = d.exponent := by
        rw [List.length_append, List.length_replicate]
        omega
      rw [hexponent, ← List.append_assoc, List.replicate_append_replicate, ofDigitChars_replicate,
        hspelled] at hread
      exact ⟨_, hread, h, rfl, rfl⟩

end Decimal

namespace Double

variable {m : Magnitude} {d : Decimal}

/-- **A decimal that reads back as a magnitude is rounded to it**, unless it is too far out to be looked at. -/
theorem ofDecimal_of_admits (negative : Bool) (hcoefficient : 0 < d.coefficient) (hleast : -400 ≤ d.point)
    (hmost : d.point ≤ 400) (h : m.admits d.ratio.1 d.ratio.2 = true) :
    ofDecimal negative d = .finite negative m := by
  rw [ofDecimal, if_neg (by omega), if_neg (by omega),
    Magnitude.nearest_of_admits (Magnitude.ratio_pos d) h, signed]

/-- What is shown of a magnitude: a sign and then digits with perhaps a point, which spell a decimal that reads
back as it. -/
structure Spells (m : Magnitude) (cs : List Char) (d : Decimal) : Prop where
  first : ∃ c rest, cs = c :: rest ∧ c.isDigit = true
  mem : ∀ c ∈ cs, c.isDigit = true ∨ c = '.'
  read : Decimal.read? cs = some d
  coefficient : 0 < d.coefficient
  point : -400 ≤ d.point ∧ d.point ≤ 400
  admits : m.admits d.ratio.1 d.ratio.2 = true

theorem exists_spells (h : m ≠ .zero) :
    ∃ cs d, Spells m cs d ∧
      ∀ negative, (finite negative m).plain = String.ofList (if negative then '-' :: cs else cs) := by
  by_cases hshort : (m.isWhole && m.wholePart < Decimal.tenTo 15) = true
  · -- A whole number of up to fifteen digits.
    obtain ⟨hwhole, hsmall⟩ := Bool.and_eq_true_iff.1 hshort
    have hunits := Magnitude.units_of_isWhole hwhole
    have hsmall : m.wholePart < 10 ^ 15 := of_decide_eq_true hsmall
    have hpos : 0 < m.wholePart := Nat.pos_of_ne_zero fun hzero => by
      have hpos := Magnitude.units_pos h
      rw [hunits, hzero, Nat.zero_mul] at hpos
      cases hpos
    have hlength : (Nat.toDigits 10 m.wholePart).length ≤ 15 :=
      (Nat.length_toDigits_le_iff (by decide) (by decide)).2 hsmall
    have hread := @Decimal.read?_digits (Nat.toDigits 10 m.wholePart) Nat.toDigits_ne_nil fun c =>
      Decimal.isDigit_of_mem_toDigits
    have hpoint : (⟨m.wholePart, 0⟩ : Decimal).point = (Nat.toDigits 10 m.wholePart).length := Int.add_zero _
    have hratio : (⟨m.wholePart, 0⟩ : Decimal).ratio = (m.wholePart, 1) := by
      simp [Decimal.ratio, Decimal.tenTo]
    rw [Nat.ofDigitChars_ten_toDigits] at hread
    refine ⟨Nat.toDigits 10 m.wholePart, ⟨m.wholePart, 0⟩, ?_, fun negative => ?_⟩
    · exact {
        first := Decimal.exists_digits_cons ⟨m.wholePart, 0⟩
        mem := fun c hc => .inl (Nat.isDigit_of_mem_toDigits (by decide) (by decide) hc)
        read := hread
        coefficient := hpos
        point := by omega
        admits := hratio ▸ Magnitude.admits_self hunits }
    · rw [plain, if_pos hshort]
      refine String.toList_injective ?_
      have hminus : (toString "-").toList = ['-'] := by decide
      cases negative <;>
        simp [hminus, Nat.ne_of_gt hpos, Nat.toString_eq_repr, Nat.repr_eq_ofList_toDigits]
  · obtain ⟨hadmits, -⟩ := Magnitude.shortest_found h .up
    have hcoefficient := Magnitude.coefficient_shortest h .up
    have hfew := Magnitude.coefficient_shortest_lt h .up
    have hleast := Magnitude.le_exponent_shortest h .up
    have hmost := Magnitude.exponent_shortest_le h .up
    have hlength : (m.shortest .up).digits.length ≤ 18 :=
      (Nat.length_toDigits_le_iff (by decide) (by decide)).2 (by omega)
    have hpoint : (m.shortest .up).point = (m.shortest .up).digits.length + (m.shortest .up).exponent := rfl
    obtain ⟨d, hread, hpos, hratio, hsame⟩ := Decimal.read?_body hcoefficient
    refine ⟨(m.shortest .up).body, d, ?_, fun negative => ?_⟩
    · exact {
        first := Decimal.exists_body_cons _
        mem := fun c => Decimal.mem_body
        read := hread
        coefficient := hpos
        point := by omega
        admits := hratio ▸ hadmits }
    · rw [plain, if_neg hshort]
      rfl

/-- **A finite number is read from the text that it shows**, unless it is negative zero. -/
theorem read?_plain {negative : Bool} (h : negative = true → m ≠ .zero) :
    read? (finite negative m).plain = some (.finite negative m) := by
  by_cases hzero : m = .zero
  · obtain rfl : negative = false := eq_false_of_ne_true fun htrue => h htrue hzero
    rw [hzero]
    decide +kernel
  · obtain ⟨cs, d, hspells, hplain⟩ := exists_spells hzero
    obtain ⟨c, rest, rfl, hc⟩ := hspells.first
    rw [hplain, read?_signed negative hc, hspells.read, Option.map_some,
      ofDecimal_of_admits negative hspells.coefficient hspells.point.1 hspells.point.2 hspells.admits]

/-- What a finite number shows has no blanks around it. -/
theorem trim_plain (negative : Bool) (m : Magnitude) :
    Text.trim (finite negative m).plain = (finite negative m).plain := by
  by_cases hzero : m = .zero
  · subst hzero
    cases negative <;> decide +kernel
  · obtain ⟨cs, d, hspells, hplain⟩ := exists_spells hzero
    have hblank : ∀ c ∈ cs, Text.isBlank c = false := fun c hc =>
      (hspells.mem c hc).elim Text.isBlank_of_isDigit fun hpoint => hpoint ▸ by decide
    refine Text.trim_of_not_isBlank fun c hc => ?_
    rw [hplain, String.toList_ofList] at hc
    cases negative with
    | false => exact hblank c hc
    | true =>
      rcases List.mem_cons.1 hc with rfl | hc
      · decide
      · exact hblank c hc

end Double

end Fieldbook
