import Fieldbook.Proofs.Json.Scaling
import Fieldbook.Snapshot

/-!
# Values, written and read back

What becomes of a value between two runs (`Value.reread`). Most values come back as they were. A number that is
infinite, or none at all, comes back as nothing. Any other number comes back as a number with its sign, and maybe
as one of its neighbours (`Double.Near`), for the method by which numerals are read rounds more than once. What
has few digits is not rounded and comes back as it was (`Double.reread_of_isBrief`).

Whatever happens to a number, a value that fits the kind of its column fits it afterwards
(`ColumnKind.Fits.reread`).
-/

namespace Fieldbook

/-! ## Numbers -/

namespace Magnitude

variable {x : Magnitude}

/-- What the magnitude is when it is read back. -/
def reread (x : Magnitude) : Magnitude := x.reread?.getD .zero

theorem reread_zero : zero.reread = zero := by decide +kernel

/-- Every number but zero is read back as some number. -/
theorem reread?_eq (h : x ≠ .zero) : x.reread? = some x.reread := by
  obtain ⟨y, hy, -⟩ := reread?_near h
  rw [reread, hy, Option.getD_some]

/-- A number is near itself. -/
theorem near_self (x : Magnitude) : x.Near x := by
  have hpos : 0 < 5 * 2 ^ x.exponent := Nat.mul_pos (by decide) (Nat.two_pow_pos _)
  exact ⟨Nat.lt_add_of_pos_right hpos, Nat.lt_add_of_pos_right hpos⟩

theorem near_reread (x : Magnitude) : x.Near x.reread := by
  by_cases h : x = .zero
  · rw [h, reread_zero]
    exact near_self .zero
  · obtain ⟨y, hy, hnear⟩ := reread?_near h
    rwa [reread, hy]

/-- The digits that are written for the magnitude make a double when they are read as one whole number, and the
power of ten that goes with them is another one. -/
def IsBrief (x : Magnitude) : Prop :=
  x = .zero ∨
    (x.shortest .even).spread.coefficient < 2 ^ 53 ∧ (x.shortest .even).spread.exponent.natAbs ≤ 22

instance (x : Magnitude) : Decidable x.IsBrief := inferInstanceAs (Decidable (_ ∨ _ ∧ _))

/-- **A number of few digits is read back as it is.** -/
theorem reread_of_isBrief (h : x.IsBrief) : x.reread = x := by
  by_cases hzero : x = .zero
  · rw [hzero, reread_zero]
  · obtain ⟨hdigits, hexponent⟩ := h.resolve_left hzero
    rw [reread, reread?_eq_self hzero hdigits hexponent, Option.getD_some]

end Magnitude

namespace Double

/-- What a finite number is when it is read back. -/
def reread : Double → Double
  | finite negative x => finite negative x.reread
  | x => x

/-- The other number has the same sign and is less than five units in the last place away. -/
inductive Near : Double → Double → Prop where
  | finite {negative : Bool} {x y : Magnitude} (h : x.Near y) : Near (finite negative x) (finite negative y)

/-- The number is finite, and its magnitude is brief. -/
inductive IsBrief : Double → Prop where
  | finite {negative : Bool} {x : Magnitude} (h : x.IsBrief) : IsBrief (finite negative x)

instance (x : Double) : Decidable x.IsBrief :=
  match x with
  | finite _ x => decidable_of_iff x.IsBrief ⟨.finite, fun (.finite h) => h⟩
  | notANumber => .isFalse nofun
  | infinite _ => .isFalse nofun

/-- Whole numbers up to 900719925474099 are brief. -/
theorem isBrief_ofNat {n : Nat} (h : n * 10 < 2 ^ 53) : (ofNat n).IsBrief := by
  obtain ⟨m, hm, hunits⟩ := Magnitude.nearest_of_lt (Nat.lt_of_le_of_lt (Nat.le_mul_of_pos_right n (by decide)) h)
  rw [ofNat, hm]
  refine .finite ?_
  rcases Nat.eq_zero_or_pos n with hzero | hpos
  · refine .inl (by_contra fun h => Nat.ne_of_gt (Magnitude.units_pos h) ?_)
    rw [hunits, hzero, Nat.zero_mul]
  · refine .inr ?_
    rw [Magnitude.spread_shortest_whole hunits hpos (by omega)]
    exact ⟨h, (by decide : (-1 : Int).natAbs ≤ 22)⟩

/-- A decimal is brief if its digits and its places are few. -/
example : (ofDecimal true ⟨69, -1⟩).IsBrief := by decide +kernel

variable {x : Double}

theorem near_reread (h : x.isFinite = true) : x.Near x.reread := by
  cases x with
  | finite negative x => exact .finite x.near_reread
  | notANumber => cases h
  | infinite negative => cases h

/-- What is read back of a finite number is finite, and so is nothing else. -/
theorem isFinite_reread (x : Double) : x.reread.isFinite = x.isFinite := by
  cases x <;> simp only [reread, isFinite]

/-- **A number with few digits is read back as it was.** -/
theorem reread_of_isBrief (h : x.IsBrief) : x.reread = x := by
  cases h with
  | finite h => exact congrArg (finite _) (Magnitude.reread_of_isBrief h)

end Double

namespace Numeral

theorem toDouble?_ofDouble?_zero :
    ∀ negative, (ofDouble? (.finite negative .zero)).bind toDouble? = some (.finite negative .zero) := by
  decide +kernel

/-- **A finite number is always read back from its numeral.** -/
theorem toDouble?_ofDouble? {x : Double} (h : x.isFinite = true) :
    (ofDouble? x).bind toDouble? = some x.reread := by
  cases x with
  | notANumber => cases h
  | infinite negative => cases h
  | finite negative x =>
    have hreread : (Double.finite negative x).reread = .finite negative x.reread := rfl
    by_cases hzero : x = .zero
    · rw [hreread, hzero, toDouble?_ofDouble?_zero, Magnitude.reread_zero]
    · rw [hreread, Magnitude.toDouble?_ofDouble? negative hzero, Magnitude.reread?_eq hzero, Option.map_some]

end Numeral

/-! ## Values of all kinds -/

/-- What a value is when it is read back. -/
def Value.reread : Value → Value
  | .number x => if x.isFinite then .number x.reread else .null
  | value => value

/-- If the value is a number it is a finite one. -/
def Value.Finite (value : Value) : Prop := ∀ x, value = .number x → x.isFinite = true

/-- The value is of the kind, and no number that is not finite. -/
structure ColumnKind.Fits (kind : ColumnKind) (value : Value) : Prop where
  holds : kind.Holds value
  finite : value.Finite

/-- **A value that fits fits again when it is read back.** -/
theorem ColumnKind.Fits.reread {kind : ColumnKind} {value : Value} (h : kind.Fits value) :
    kind.Fits value.reread := by
  cases value with
  | null => exact h
  | bool b => exact h
  | text s => exact h
  | list items => exact h
  | number x =>
    have hfinite := h.finite x rfl
    have hkind : kind = .number := by
      have hholds := h.holds
      cases kind <;> first | rfl | cases hholds
    rw [Value.reread, if_pos hfinite, hkind]
    refine ⟨trivial, ?_⟩
    rintro _ ⟨⟩
    rw [Double.isFinite_reread, hfinite]

end Fieldbook
