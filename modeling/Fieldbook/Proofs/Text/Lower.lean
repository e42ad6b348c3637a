import Fieldbook.Proofs.Text.Items
import Fieldbook.Text.Case
import Mathlib

/-!
# Texts in lower case

A text in lower case holds none of the capitals `A` to `Z` (`toLower_of_mem_lowerChars`): the tables take
each of these to its small letter, and nothing to one of them. Among such texts `sameLetters` is equality
(`eq_of_sameLetters`).
-/

namespace Fieldbook.Text

/-- A character that is none of the capitals `A` to `Z` is its own small letter. -/
theorem toLower_eq_self {c : Char} (h : c.toNat < 65 ∨ 90 < c.toNat) : c.toLower = c := by
  refine dif_neg fun hcapital => ?_
  have hfirst : 65 ≤ c.toNat := UInt32.le_iff_toNat_le.1 hcapital.1
  have hlast : c.toNat ≤ 90 := UInt32.le_iff_toNat_le.1 hcapital.2
  omega

theorem toNat_ofNat (n : Nat) : (Char.ofNat n).toNat = n ∨ (Char.ofNat n).toNat = 0 := by
  rw [Char.ofNat]
  split
  · exact .inl rfl
  · exact .inr rfl

namespace Run

variable {runs : List Run} {n k least : Nat}

/-- No run leads below a bound that holds for where each of them begins. -/
theorem le_of_shifted? (h : ∀ r ∈ runs, (least : Int) ≤ r.first + r.shift)
    (hshifted : shifted? runs n = some k) : least ≤ k := by
  induction runs with
  | nil => cases hshifted
  | cons r rest ih =>
    rw [shifted?] at hshifted
    split at hshifted
    · cases hshifted
    · split at hshifted
      · split at hshifted
        · cases hshifted
          have := h r List.mem_cons_self
          omega
        · cases hshifted
      · exact ih (fun r' hr' => h r' (List.mem_cons_of_mem r hr')) hshifted

end Run

/-- All runs lead beyond `Z`. -/
theorem beyond_capitals : ∀ r ∈ Case.lowerRuns, ((91 : Nat) : Int) ≤ r.first + r.shift := by
  decide +kernel

/-- The lower-case form of a character holds no capitals. -/
theorem toLower_of_mem_lowerChar {c d : Char} (h : d ∈ lowerChar c) : d.toLower = d := by
  rw [lowerChar] at h
  split at h
  · rcases List.mem_pair.1 h with rfl | rfl <;> decide
  · split at h
    · next n hshifted =>
      obtain rfl := List.mem_singleton.1 h
      have hbeyond : 91 ≤ n := Run.le_of_shifted? beyond_capitals hshifted
      rcases toNat_ofNat n with hn | hn <;> exact toLower_eq_self (by omega)
    · next hnone =>
      obtain rfl := List.mem_singleton.1 h
      refine toLower_eq_self ?_
      by_contra hcapital
      -- The first run is that of the capitals.
      have hfirst : ∃ rest, Case.lowerRuns = ⟨0x41, 0x5A, 1, 32⟩ :: rest := ⟨_, rfl⟩
      obtain ⟨rest, hrest⟩ := hfirst
      rw [hrest, Run.shifted?, if_neg (by dsimp only; omega), if_pos (by dsimp only; omega),
        if_pos (Nat.mod_one _)] at hnone
      cases hnone

theorem toLower_of_mem_lowerAfter {before after : List Char} {d : Char}
    (h : d ∈ lowerAfter before after) : d.toLower = d := by
  induction after generalizing before with
  | nil => cases h
  | cons c after ih =>
    rw [lowerAfter, List.mem_append] at h
    rcases h with h | h
    · split at h
      · obtain rfl := List.mem_singleton.1 h
        split <;> decide
      · exact toLower_of_mem_lowerChar h
    · exact ih h

/-- **A text in lower case holds no capitals.** -/
theorem toLower_of_mem_lowerChars {cs : List Char} {d : Char} (h : d ∈ lowerChars cs) :
    d.toLower = d :=
  toLower_of_mem_lowerAfter h

/-! ## Words and letters -/

/-- What a word is made of is in the text, and is no blank. -/
theorem mem_of_mem_words {s word : String} (h : word ∈ words s) {c : Char} (hc : c ∈ word.toList) :
    c ∈ s.toList ∧ isBlank c = false := by
  obtain ⟨cs, hcs, rfl⟩ := List.mem_map.1 h
  rw [String.toList_ofList] at hc
  exact mem_of_mem_splitOnP (List.mem_filter.1 hcs).1 hc

theorem sameLetters_iff {a b : String} :
    sameLetters a b = true ↔ a.toList.map Char.toLower = b.toList.map Char.toLower :=
  beq_iff_eq

@[simp]
theorem sameLetters_self (a : String) : sameLetters a a = true := sameLetters_iff.2 rfl

/-- Texts without capitals have the same letters only when they are the same. -/
theorem eq_of_sameLetters {a b : String} (ha : ∀ c ∈ a.toList, c.toLower = c)
    (hb : ∀ c ∈ b.toList, c.toLower = c) (h : sameLetters a b = true) : a = b := by
  rw [sameLetters_iff, List.map_congr_left ha, List.map_congr_left hb, List.map_id', List.map_id'] at h
  exact String.toList_inj.1 h

end Fieldbook.Text
