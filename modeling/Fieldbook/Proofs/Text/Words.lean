import Fieldbook.Proofs.Text.Items
import Mathlib.Data.List.DropRight

/-!
# The words of a text

Blanks end words and are in none; a text of nothing else is trimmed to nothing (`trim_eq_empty_iff`). A text
that is trimmed begins and ends with a word (`exists_of_wordChars_eq_cons`), and with a single one it is that
word (`eq_of_words_eq_singleton`). What is not trimmed is a trimmed text with blanks around it
(`exists_blanks_around`), which make no words (`words_trim`).
-/

namespace Fieldbook.Text

variable {cs ds word front back : List Char} {rest : List (List Char)} {b : Char}

theorem toList_trim (s : String) : (trim s).toList = trimChars s.toList := String.toList_ofList

/-- Only blanks are trimmed to nothing. -/
theorem trimChars_eq_nil_iff : trimChars cs = [] ↔ ∀ c ∈ cs, isBlank c = true := by
  rw [trimChars, trimEnd, List.reverse_eq_nil_iff, List.dropWhile_eq_nil_iff]
  simp only [List.mem_reverse]
  constructor
  · intro h
    by_contra hsome
    have hne : cs.dropWhile isBlank ≠ [] := mt List.dropWhile_eq_nil_iff.1 hsome
    obtain ⟨c, rest, hrest⟩ := List.exists_cons_of_ne_nil hne
    have hblank := h c (hrest ▸ List.mem_cons_self)
    rw [head?_dropWhile_isBlank cs c (by rw [hrest]; rfl)] at hblank
    cases hblank
  · exact fun h c hc => h c ((List.dropWhile_suffix isBlank).subset hc)

/-- Nothing is left of a text of blanks, and of no other. -/
theorem trim_eq_empty_iff {s : String} : trim s = "" ↔ ∀ c ∈ s.toList, isBlank c = true := by
  rw [← trimChars_eq_nil_iff, ← toList_trim, String.toList_eq_nil_iff]

/-- **A blank stands between the words before it and the words behind it.** -/
theorem wordChars_append (hb : isBlank b = true) (cs ds : List Char) :
    wordChars (cs ++ b :: ds) = wordChars cs ++ wordChars ds := by
  rw [wordChars, List.splitOnP_append_cons cs ds hb, List.filter_append, wordChars, wordChars]

theorem wordChars_cons_of_isBlank (hb : isBlank b = true) (cs : List Char) :
    wordChars (b :: cs) = wordChars cs := wordChars_append hb [] cs

theorem wordChars_eq_singleton (h : ∀ c ∈ cs, isBlank c = false) (hne : cs ≠ []) : wordChars cs = [cs] := by
  rw [wordChars, List.splitOnP_eq_singleton h]
  simp [hne]

/-- The word that a text begins with is the first of its words. -/
theorem wordChars_eq_cons {c : Char} (h : isBlank c = false) (cs : List Char) :
    wordChars (c :: cs) =
      (c :: cs.takeWhile (!isBlank ·)) :: wordChars (cs.dropWhile (!isBlank ·)) := by
  have hword : ∀ d ∈ c :: cs.takeWhile (!isBlank ·), isBlank d = false := by
    intro d hd
    obtain rfl | hd := List.mem_cons.1 hd
    · exact h
    · simpa using List.all_eq_true.1 List.all_takeWhile d hd
  have hcs : c :: cs = (c :: cs.takeWhile (!isBlank ·)) ++ cs.dropWhile (!isBlank ·) := by
    rw [List.cons_append, List.takeWhile_append_dropWhile]
  cases hrest : cs.dropWhile (!isBlank ·) with
  | nil =>
    rw [hcs, hrest, List.append_nil, wordChars_eq_singleton hword (List.cons_ne_nil _ _)]
    rfl
  | cons b more =>
    have hb : isBlank b = true := by
      have hfirst := List.head?_dropWhile_not (!isBlank ·) cs
      rw [hrest] at hfirst
      simpa using hfirst
    rw [wordChars_cons_of_isBlank hb, hcs, hrest, wordChars_append hb,
      wordChars_eq_singleton hword (List.cons_ne_nil _ _), List.singleton_append]

/-- A text without words is blank. -/
theorem isBlank_of_wordChars_eq_nil (h : wordChars cs = []) : ∀ c ∈ cs, isBlank c = true := by
  induction cs with
  | nil => exact fun c hc => absurd hc List.not_mem_nil
  | cons d cs ih =>
    cases hd : isBlank d with
    | true =>
      rw [wordChars_cons_of_isBlank hd] at h
      intro c hc
      obtain rfl | hc := List.mem_cons.1 hc
      · exact hd
      · exact ih h c hc
    | false =>
      rw [wordChars_eq_cons hd] at h
      cases h

/-- A trimmed text without words is empty. -/
theorem eq_nil_of_wordChars_eq_nil (h : Trimmed cs) (hwords : wordChars cs = []) : cs = [] := by
  cases cs with
  | nil => rfl
  | cons c cs =>
    have hblank := isBlank_of_wordChars_eq_nil hwords c List.mem_cons_self
    rw [h.1 c rfl] at hblank
    cases hblank

/-- A trimmed text begins with its first word, and consists of it if there is no other. -/
theorem exists_of_wordChars_eq_cons (h : Trimmed cs) (hwords : wordChars cs = word :: rest) :
    ∃ more, cs = word ++ more ∧ (rest = [] → more = []) := by
  cases cs with
  | nil => cases hwords
  | cons c cs =>
    rw [wordChars_eq_cons (h.1 c rfl)] at hwords
    obtain ⟨rfl, hrest⟩ := List.cons.inj hwords
    refine ⟨cs.dropWhile (!isBlank ·), ?_, fun hnil => ?_⟩
    · rw [List.cons_append, List.takeWhile_append_dropWhile]
    · by_contra hmore
      -- The last character would be blank.
      have hblank := isBlank_of_wordChars_eq_nil (hrest.trans hnil) _ (List.getLast_mem hmore)
      have hsplit : c :: cs = (c :: cs.takeWhile (!isBlank ·)) ++ cs.dropWhile (!isBlank ·) := by
        rw [List.cons_append, List.takeWhile_append_dropWhile]
      have hlast : (c :: cs).getLast? = some ((cs.dropWhile (!isBlank ·)).getLast hmore) := by
        rw [hsplit, List.getLast?_append_of_ne_nil _ hmore, List.getLast?_eq_some_getLast hmore]
      rw [h.2 _ hlast] at hblank
      cases hblank

/-- A trimmed text begins with its first word, and ends with it if that is its only one. -/
theorem exists_of_words_eq_cons {s word : String} {rest : List String} (h : Trimmed s.toList)
    (hwords : words s = word :: rest) :
    ∃ more, s.toList = word.toList ++ more ∧ (rest = [] → more = []) := by
  obtain ⟨first, others, hchars, rfl, rfl⟩ := List.map_eq_cons_iff.1 hwords
  obtain ⟨more, hs, hmore⟩ := exists_of_wordChars_eq_cons h hchars
  rw [String.toList_ofList]
  exact ⟨more, hs, fun hnil => hmore (List.map_eq_nil_iff.1 hnil)⟩

/-- A trimmed text with a single word is that word. -/
theorem eq_of_words_eq_singleton {s word : String} (h : Trimmed s.toList) (hwords : words s = [word]) :
    s = word := by
  obtain ⟨more, hs, hmore⟩ := exists_of_words_eq_cons h hwords
  rw [hmore rfl, List.append_nil] at hs
  exact String.toList_inj.1 hs

/-! ## Blanks around a text -/

theorem wordChars_blanks_append (h : ∀ b ∈ front, isBlank b = true) (cs : List Char) :
    wordChars (front ++ cs) = wordChars cs := by
  induction front with
  | nil => rfl
  | cons b front ih =>
    obtain ⟨hb, hfront⟩ := List.forall_mem_cons.1 h
    rw [List.cons_append, wordChars_cons_of_isBlank hb, ih hfront]

theorem wordChars_append_blanks (h : ∀ b ∈ back, isBlank b = true) (cs : List Char) :
    wordChars (cs ++ back) = wordChars cs := by
  cases back with
  | nil => rw [List.append_nil]
  | cons b back =>
    obtain ⟨hb, hback⟩ := List.forall_mem_cons.1 h
    have hnone : wordChars back = [] := by
      have hblanks := wordChars_blanks_append hback []
      rwa [List.append_nil] at hblanks
    rw [wordChars_append hb, hnone, List.append_nil]

/-- What is not trimmed is a trimmed text between blanks. -/
theorem exists_blanks_around (cs : List Char) : ∃ front back,
    (∀ b ∈ front, isBlank b = true) ∧ (∀ b ∈ back, isBlank b = true) ∧
      cs = front ++ trimChars cs ++ back := by
  have hfront := (List.takeWhile_append_dropWhile (p := isBlank) (l := cs)).symm
  have hback := (List.rdropWhile_append_rtakeWhile (p := isBlank) (l := cs.dropWhile isBlank)).symm
  refine ⟨cs.takeWhile isBlank, (cs.dropWhile isBlank).rtakeWhile isBlank,
    fun _ => List.mem_takeWhile_imp, fun _ => List.mem_rtakeWhile_imp, ?_⟩
  rw [List.append_assoc]
  exact hfront.trans (congrArg _ hback)

theorem trimChars_blanks_around (hfront : ∀ b ∈ front, isBlank b = true)
    (hback : ∀ b ∈ back, isBlank b = true) (h : Trimmed cs) : trimChars (front ++ cs ++ back) = cs := by
  rw [trimChars, List.append_assoc, List.dropWhile_append_of_pos hfront]
  cases cs with
  | nil => rw [List.nil_append, List.dropWhile_eq_nil_iff.2 hback]; rfl
  | cons c cs =>
    rw [List.cons_append, List.dropWhile_cons_of_neg (by simp [h.1 c rfl]), ← List.cons_append, trimEnd,
      List.reverse_append, List.dropWhile_append_of_pos fun b hb => hback b (List.mem_reverse.1 hb)]
    exact trimEnd_eq_self h.2

/-- Blanks around a text make no words. -/
@[simp]
theorem words_trim (s : String) : words (trim s) = words s := by
  obtain ⟨front, back, hfront, hback, hs⟩ := exists_blanks_around s.toList
  rw [words, words, toList_trim, hs, wordChars_append_blanks hback, wordChars_blanks_append hfront, ← hs]

end Fieldbook.Text
