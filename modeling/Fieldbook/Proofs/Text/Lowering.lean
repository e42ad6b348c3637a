import Fieldbook.Proofs.Text.Items
import Fieldbook.Proofs.Text.Lower

/-!
# Lower-casing twice, and lower-casing in pieces

No character that lower-casing leads to has a lower-case form of its own, so a text in lower case stays as
it is when it is lower-cased once more (`lowerChars_lowerChars`). Blanks are left alone and nothing else
becomes one, so a trimmed text stays trimmed (`trimmed_lowerChars`).

What becomes of a capital sigma depends on what stands around it, but it is never looked past a blank: on
each side of it a text is lower-cased as if nothing stood on the other (`lowerChars_append_of_isBlank`).
-/

namespace Fieldbook.Text

/-! ## Where the tables lead -/

namespace Run

variable {runs : List Run} {r other : Run} {n k : Nat}

/-- The code point is one of those that the run shifts. -/
def Shifts (r : Run) (n : Nat) : Prop :=
  r.first ≤ n ∧ n ≤ r.last ∧ (n - r.first) % r.step = 0

/-- A character that is shifted is so by one of the runs. -/
theorem exists_of_shifted? (h : shifted? runs n = some k) :
    ∃ r ∈ runs, r.Shifts n ∧ k = (n + r.shift).toNat := by
  induction runs with
  | nil => cases h
  | cons r rest ih =>
    rw [shifted?] at h
    split at h
    · cases h
    · next hfirst =>
      split at h
      · next hlast =>
        split at h
        · next hstep =>
          cases h
          exact ⟨r, List.mem_cons_self, ⟨Nat.le_of_not_lt hfirst, hlast, hstep⟩, rfl⟩
        · cases h
      · obtain ⟨r', hr', hk⟩ := ih h
        exact ⟨r', List.mem_cons_of_mem r hr', hk⟩

/-- The code point that the run leads to from its beginning. -/
def leadsTo (r : Run) (n : Nat) : Nat := (n + r.shift).toNat

/-- The run leads to nothing that the other one shifts: it leads past it, or between its steps. -/
def misses (r other : Run) : Bool :=
  Nat.blt (r.leadsTo r.last) other.first || Nat.blt other.last (r.leadsTo r.first) ||
    other.step == 2 && (r.step == 2 || r.first == r.last) && (r.leadsTo r.first + other.first) % 2 == 1

theorem not_shifts_of_misses (hpositive : 0 ≤ r.first + r.shift) (hmisses : r.misses other = true)
    (h : r.Shifts n) : ¬ other.Shifts (r.leadsTo n) := by
  obtain ⟨hfirst, hlast, hstep⟩ := h
  rintro ⟨hfirst', hlast', hstep'⟩
  simp only [misses, leadsTo, Bool.or_eq_true, Bool.and_eq_true, beq_iff_eq, Nat.blt_eq] at hmisses hfirst' hlast' hstep'
  rcases hmisses with (hbefore | hbehind) | ⟨⟨htwo, hsame⟩, hodd⟩
  · omega
  · omega
  · rw [htwo] at hstep'
    rcases hsame with hstep₂ | hsingle
    · rw [hstep₂] at hstep
      omega
    · omega

end Run

/-- The blanks as runs. -/
def blankRuns : List Run :=
  [⟨0x09, 0x0D, 1, 0⟩, ⟨0x20, 0x20, 1, 0⟩, ⟨0x85, 0x85, 1, 0⟩, ⟨0xA0, 0xA0, 1, 0⟩, ⟨0x1680, 0x1680, 1, 0⟩,
    ⟨0x2000, 0x200A, 1, 0⟩, ⟨0x2028, 0x2029, 1, 0⟩, ⟨0x202F, 0x202F, 1, 0⟩, ⟨0x205F, 0x205F, 1, 0⟩,
    ⟨0x3000, 0x3000, 1, 0⟩]

/-- What lower-casing must not lead to: blanks and the two characters that it treats by themselves. -/
def apartRuns : List Run := ⟨0x130, 0x130, 1, 0⟩ :: ⟨0x3A3, 0x3A3, 1, 0⟩ :: blankRuns

/-- No run leads to what a run shifts, nor to what stands apart. -/
theorem lowerRuns_miss : (Case.lowerRuns.all fun r =>
    (Case.lowerRuns ++ apartRuns).all r.misses) = true := by
  decide +kernel

/-- No run of capitals leads to a blank; both lists are tables, and are looked through. -/
theorem blankRuns_miss : (blankRuns.all fun r => Case.lowerRuns.all r.misses) = true := by
  decide +kernel

variable {c d : Char} {n k : Nat}

theorem exists_of_isBlank (h : isBlank c = true) : ∃ r ∈ blankRuns, r.Shifts c.toNat := by
  simp only [isBlank, Bool.or_eq_true, Bool.and_eq_true, decide_eq_true_eq, beq_iff_eq] at h
  simp only [blankRuns, Run.Shifts, Nat.mod_one, List.exists_mem_cons_iff, List.not_mem_nil, false_and,
    exists_false, and_true, or_false]
  omega

/-- What no run shifts stays. -/
theorem shifted?_of_not_shifts (h : ∀ r ∈ Case.lowerRuns, ¬ r.Shifts n) :
    Run.shifted? Case.lowerRuns n = none := by
  cases hshifted : Run.shifted? Case.lowerRuns n with
  | none => rfl
  | some k =>
    obtain ⟨r, hr, hshifts, -⟩ := Run.exists_of_shifted? hshifted
    exact absurd hshifts (h r hr)

/-- What a code point is shifted to is shifted no further and stands not apart. -/
theorem not_shifts_of_shifted? (h : Run.shifted? Case.lowerRuns n = some k) :
    ∀ r ∈ Case.lowerRuns ++ apartRuns, ¬ r.Shifts k := by
  obtain ⟨r, hr, hshifts, rfl⟩ := Run.exists_of_shifted? h
  intro other hother
  refine Run.not_shifts_of_misses ?_ (List.all_eq_true.1 (List.all_eq_true.1 lowerRuns_miss r hr) other hother)
    hshifts
  have := beyond_capitals r hr
  omega

/-- A blank is shifted by no run. -/
theorem shifted?_of_isBlank (h : isBlank c = true) : Run.shifted? Case.lowerRuns c.toNat = none := by
  obtain ⟨r, hr, hshifts⟩ := exists_of_isBlank h
  have hstays : r.shift = 0 := by
    have hall : ∀ r ∈ blankRuns, r.shift = 0 := by decide
    exact hall r hr
  have hsame : r.leadsTo c.toNat = c.toNat := by simp [Run.leadsTo, hstays]
  refine shifted?_of_not_shifts fun other hother => ?_
  rw [← hsame]
  exact Run.not_shifts_of_misses (by omega)
    (List.all_eq_true.1 (List.all_eq_true.1 blankRuns_miss r hr) other hother) hshifts

/-! ## Characters -/

/-- The character is its own lower-case form, wherever it stands. -/
structure IsLow (c : Char) : Prop where
  ne_sigma : c ≠ 'Σ'
  lowerChar_eq : lowerChar c = [c]

theorem lowerChar_of_shifted? (hdotted : c ≠ 'İ') (h : Run.shifted? Case.lowerRuns c.toNat = none) :
    lowerChar c = [c] := by
  rw [lowerChar, if_neg hdotted, h]

/-- **A blank is its own lower case.** -/
theorem lowerChar_of_isBlank (h : isBlank c = true) : lowerChar c = [c] := by
  refine lowerChar_of_shifted? ?_ (shifted?_of_isBlank h)
  rintro rfl
  cases h

/-- What no run shifts and what does not stand apart is in lower case, and no blank. -/
theorem isLow_of_not_shifts (h : ∀ r ∈ Case.lowerRuns ++ apartRuns, ¬ r.Shifts c.toNat) :
    IsLow c ∧ isBlank c = false := by
  have hapart : ∀ r ∈ apartRuns, ¬ r.Shifts c.toNat := fun r hr => h r (List.mem_append_right _ hr)
  have hdotted : c ≠ 'İ' := by
    rintro rfl
    exact hapart ⟨0x130, 0x130, 1, 0⟩ (.head _) ⟨by decide, by decide, by decide⟩
  have hsigma : c ≠ 'Σ' := by
    rintro rfl
    exact hapart ⟨0x3A3, 0x3A3, 1, 0⟩ (.tail _ (.head _)) ⟨by decide, by decide, by decide⟩
  refine ⟨⟨hsigma, lowerChar_of_shifted? hdotted ?_⟩, eq_false_of_ne_true fun hblank => ?_⟩
  · exact shifted?_of_not_shifts fun r hr => h r (List.mem_append_left _ hr)
  · obtain ⟨r, hr, hshifts⟩ := exists_of_isBlank hblank
    exact hapart r (.tail _ (.tail _ hr)) hshifts

/-- **A character of a lower-case form is its own lower-case form**, and a blank only if it comes from one. -/
theorem isLow_of_mem_lowerChar (hc : c ≠ 'Σ') (h : d ∈ lowerChar c) : IsLow d ∧ isBlank d = isBlank c := by
  rw [lowerChar] at h
  split at h
  · next hdotted =>
    subst hdotted
    obtain rfl | rfl := List.mem_pair.1 h
    · exact ⟨⟨by decide, by decide +kernel⟩, by decide⟩
    · exact ⟨⟨by decide, by decide +kernel⟩, by decide⟩
  · next hdotted =>
    split at h
    · next n hshifted =>
      obtain rfl := List.mem_singleton.1 h
      have hc : isBlank c = false := by
        refine eq_false_of_ne_true fun hblank => ?_
        rw [shifted?_of_isBlank hblank] at hshifted
        cases hshifted
      rw [hc]
      rcases toNat_ofNat n with hn | hn
      · refine isLow_of_not_shifts ?_
        rw [hn]
        exact not_shifts_of_shifted? hshifted
      · -- Nothing of the kind is in the tables.
        have hnull : Char.ofNat n = '\x00' := by rw [← Char.ofNat_toNat (Char.ofNat n), hn]
        rw [hnull]
        exact ⟨⟨by decide, by decide +kernel⟩, by decide⟩
    · next hshifted =>
      obtain rfl := List.mem_singleton.1 h
      exact ⟨⟨hc, lowerChar_of_shifted? hdotted hshifted⟩, rfl⟩

/-- The ASCII characters that are neither blank, nor capitals, nor controls. -/
def isLowAscii (c : Char) : Bool :=
  (33 ≤ c.toNat && c.toNat ≤ 64) || (91 ≤ c.toNat && c.toNat ≤ 126)

theorem isLow_of_isLowAscii (h : isLowAscii c = true) : IsLow c ∧ isBlank c = false := by
  simp only [isLowAscii, Bool.or_eq_true, Bool.and_eq_true, decide_eq_true_eq] at h
  have hruns : ∀ r ∈ Case.lowerRuns, 65 ≤ r.first ∧ (r.last ≤ 90 ∨ 128 ≤ r.first) := by decide +kernel
  have hapart : ∀ r ∈ apartRuns, r.last ≤ 32 ∨ 128 ≤ r.first := by decide
  refine isLow_of_not_shifts fun r hr => ?_
  rintro ⟨hfirst, hlast, -⟩
  rcases List.mem_append.1 hr with hr | hr
  · have := hruns r hr
    omega
  · have := hapart r hr
    omega

theorem lowerChar_ne_nil (c : Char) : lowerChar c ≠ [] := by
  rw [lowerChar]
  split
  · exact List.cons_ne_nil _ _
  · split <;> exact List.cons_ne_nil _ _

/-! ## Texts -/

variable {before cs ds : List Char}

/-- Every character gives a piece of the lower-case form, and a blank gives itself. -/
theorem lowerAfter_cons (before cs : List Char) (c : Char) : ∃ piece, piece ≠ [] ∧
    lowerAfter before (c :: cs) = piece ++ lowerAfter (c :: before) cs ∧
      (isBlank c = true → piece = [c]) ∧ ∀ d ∈ piece, IsLow d ∧ isBlank d = isBlank c := by
  refine ⟨_, ?_, by rw [lowerAfter], fun hblank => ?_, ?_⟩
  · split
    · exact List.cons_ne_nil _ _
    · exact lowerChar_ne_nil c
  · rw [if_neg, lowerChar_of_isBlank hblank]
    rintro rfl
    cases hblank
  · intro d hd
    split at hd
    · next hsigma =>
      subst hsigma
      obtain rfl := List.mem_singleton.1 hd
      split
      · exact ⟨⟨by decide, by decide +kernel⟩, by decide⟩
      · exact ⟨⟨by decide, by decide +kernel⟩, by decide⟩
    · next hsigma => exact isLow_of_mem_lowerChar hsigma hd

/-- **Whatever lowering makes is low**, wherever in the text it was made. -/
theorem isLow_of_mem_lowerAfter (h : d ∈ lowerAfter before cs) : IsLow d := by
  induction cs generalizing before with
  | nil => cases h
  | cons c cs ih =>
    obtain ⟨piece, -, hlower, -, hpiece⟩ := lowerAfter_cons before cs c
    rw [hlower, List.mem_append] at h
    rcases h with h | h
    · exact (hpiece d h).1
    · exact ih h

/-- **A text in lower case holds only characters that are their own lower-case form.** -/
theorem isLow_of_mem_lowerChars (h : d ∈ lowerChars cs) : IsLow d := isLow_of_mem_lowerAfter h

/-- Characters in lower case stay as they are, whatever stands before and behind them. -/
theorem lowerAfter_append (h : ∀ c ∈ cs, IsLow c) (before ds : List Char) :
    lowerAfter before (cs ++ ds) = cs ++ lowerAfter (cs.reverse ++ before) ds := by
  induction cs generalizing before with
  | nil => rfl
  | cons c cs ih =>
    obtain ⟨hsigma, hlow⟩ := h c (.head _)
    rw [List.cons_append, lowerAfter, if_neg hsigma, hlow, ih (fun d hd => h d (.tail _ hd))]
    simp

/-- **A text in lower case stays as it is.** -/
theorem lowerChars_eq_self (h : ∀ c ∈ cs, IsLow c) : lowerChars cs = cs := by
  have happend := lowerAfter_append h [] []
  rwa [List.append_nil, lowerAfter, List.append_nil] at happend

/-- **Lower-casing twice is lower-casing once.** -/
@[simp]
theorem lowerChars_lowerChars (cs : List Char) : lowerChars (lowerChars cs) = lowerChars cs :=
  lowerChars_eq_self fun _ => isLow_of_mem_lowerChars

theorem toList_lower (s : String) : (lower s).toList = lowerChars s.toList := String.toList_ofList

/-- A text is lowered once and for all. -/
@[simp]
theorem lower_lower (s : String) : lower (lower s) = lower s := by
  rw [lower, toList_lower, lowerChars_lowerChars, lower]

/-- The first and the last character of a lower-case form are blank exactly where those of the text are. -/
theorem isBlank_head?_lowerAfter (h : (lowerAfter before cs).head? = some d) :
    ∃ c, cs.head? = some c ∧ isBlank d = isBlank c := by
  cases cs with
  | nil => cases h
  | cons c cs =>
    obtain ⟨piece, hne, hlower, -, hpiece⟩ := lowerAfter_cons before cs c
    rw [hlower, List.head?_append_of_ne_nil piece hne] at h
    exact ⟨c, rfl, (hpiece d (List.mem_of_head? h)).2⟩

theorem lowerAfter_eq_nil_iff : lowerAfter before cs = [] ↔ cs = [] := by
  cases cs with
  | nil => simp [lowerAfter]
  | cons c cs =>
    obtain ⟨piece, hne, hlower, -, -⟩ := lowerAfter_cons before cs c
    simp [hlower, hne]

theorem isBlank_getLast?_lowerAfter (h : (lowerAfter before cs).getLast? = some d) :
    ∃ c, cs.getLast? = some c ∧ isBlank d = isBlank c := by
  induction cs generalizing before with
  | nil => cases h
  | cons c cs ih =>
    obtain ⟨piece, hne, hlower, -, hpiece⟩ := lowerAfter_cons before cs c
    rw [hlower] at h
    cases cs with
    | nil =>
      rw [lowerAfter, List.append_nil] at h
      exact ⟨c, rfl, (hpiece d (List.mem_of_getLast? h)).2⟩
    | cons c' cs =>
      rw [List.getLast?_append_of_ne_nil _ (mt lowerAfter_eq_nil_iff.1 (List.cons_ne_nil c' cs))] at h
      rw [List.getLast?_cons_cons]
      exact ih h

/-- **A trimmed text stays trimmed in lower case.** -/
theorem trimmed_lowerChars (h : Trimmed cs) : Trimmed (lowerChars cs) := by
  constructor
  · intro d hd
    obtain ⟨c, hc, hblank⟩ := isBlank_head?_lowerAfter hd
    exact hblank.trans (h.1 c hc)
  · intro d hd
    obtain ⟨c, hc, hblank⟩ := isBlank_getLast?_lowerAfter hd
    exact hblank.trans (h.2 c hc)

/-- A trimmed text is trimmed in lower case, since blanks stay blanks and no other character becomes one. -/
theorem trimmed_lower {s : String} (h : trim s = s) : Trimmed (lower s).toList := by
  rw [toList_lower]
  exact trimmed_lowerChars (trimmed_toList_of_trim_eq h)

/-- No text is lost by lowering it. -/
theorem lower_ne_nil {s : String} (h : s ≠ "") : (lower s).toList ≠ [] := by
  rw [toList_lower]
  exact mt lowerAfter_eq_nil_iff.1 (mt String.toList_eq_nil_iff.1 h)

/-- **Lower-casing leaves the blanks where they are.** -/
theorem mem_lowerAfter_of_isBlank (hd : isBlank d = true) : d ∈ lowerAfter before cs ↔ d ∈ cs := by
  induction cs generalizing before with
  | nil => exact Iff.rfl
  | cons c cs ih =>
    obtain ⟨piece, -, hlower, hblank, hpiece⟩ := lowerAfter_cons before cs c
    rw [hlower, List.mem_append, ih, List.mem_cons, or_congr_left]
    constructor
    · intro h
      have hc : isBlank c = true := (hpiece d h).2.symm.trans hd
      rw [hblank hc] at h
      exact List.mem_singleton.1 h
    · rintro rfl
      rw [hblank hd]
      exact List.mem_singleton_self d

theorem mem_lowerChars_of_isBlank (hd : isBlank d = true) : d ∈ lowerChars cs ↔ d ∈ cs :=
  mem_lowerAfter_of_isBlank hd

theorem mem_lower_of_isBlank (hd : isBlank d = true) {s : String} : d ∈ (lower s).toList ↔ d ∈ s.toList := by
  rw [toList_lower, mem_lowerChars_of_isBlank hd]

/-! ## Around a blank -/

theorem meetsCased_cons (c : Char) (cs : List Char) :
    meetsCased (c :: cs) = if isCaseIgnorable c then meetsCased cs else isCased c := by
  rw [meetsCased, List.dropWhile_cons]
  cases isCaseIgnorable c <;> rfl

/-- A blank is not passed over, and it has no case. -/
theorem not_cased_of_isBlank (h : isBlank c = true) : isCaseIgnorable c = false ∧ isCased c = false := by
  have hblanks : ∀ r ∈ blankRuns, ∀ k < r.last + 1 - r.first,
      Case.ignorableIntervals.covers (r.first + k) = false ∧
        Case.casedIntervals.covers (r.first + k) = false := by
    decide +kernel
  obtain ⟨r, hr, hfirst, hlast, -⟩ := exists_of_isBlank h
  have hc := hblanks r hr (c.toNat - r.first) (by omega)
  rwa [Nat.add_sub_cancel' hfirst] at hc

section Blank

variable {b : Char} (hb : isBlank b = true)
include hb

theorem meetsCased_blank (cs before : List Char) : meetsCased (cs ++ b :: before) = meetsCased cs := by
  obtain ⟨hpassed, hcased⟩ := not_cased_of_isBlank hb
  induction cs with
  | nil => rw [List.nil_append, meetsCased_cons, hpassed, hcased]; rfl
  | cons c cs ih => rw [List.cons_append, meetsCased_cons, meetsCased_cons, ih]

theorem lowerAfter_blank (cs before ds : List Char) :
    lowerAfter (cs ++ b :: before) ds = lowerAfter cs ds := by
  induction ds generalizing cs with
  | nil => rfl
  | cons d ds ih =>
    rw [lowerAfter, lowerAfter, endsWord, endsWord, meetsCased_blank hb, ← List.cons_append, ih]

theorem lowerAfter_append_blank (before cs ds : List Char) :
    lowerAfter before (cs ++ b :: ds) = lowerAfter before cs ++ b :: lowerChars ds := by
  induction cs generalizing before with
  | nil =>
    have hsigma : b ≠ 'Σ' := by
      rintro rfl
      cases hb
    rw [List.nil_append, lowerAfter.eq_2, if_neg hsigma, lowerChar_of_isBlank hb]
    exact congrArg (b :: ·) (lowerAfter_blank hb [] before ds)
  | cons c cs ih =>
    rw [List.cons_append, lowerAfter, lowerAfter, endsWord, endsWord, meetsCased_blank hb, ih,
      List.append_assoc]

/-- **What stands on the two sides of a blank is lower-cased by itself.** -/
theorem lowerChars_append_of_isBlank (cs ds : List Char) :
    lowerChars (cs ++ b :: ds) = lowerChars cs ++ b :: lowerChars ds :=
  lowerAfter_append_blank hb [] cs ds

end Blank

/-- Texts with a blank between them are lowered each for itself: no final letter looks past the blank. -/
theorem lowerChars_append_blank (cs ds : List Char) :
    lowerChars (cs ++ ' ' :: ds) = lowerChars cs ++ ' ' :: lowerChars ds :=
  lowerChars_append_of_isBlank (by decide) cs ds

end Fieldbook.Text
