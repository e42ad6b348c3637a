import Fieldbook.Proofs.Command.Words

/-!
# Conditions word by word

A condition is split at the words `is` that stand between others. `separators` finds them from left to
right, without looking at blanks, and `Condition.read?_unwords` says that a condition of words with single
blanks between them is read as `Condition.ofWords?` says.
-/

namespace Fieldbook

/-- The words from one index on, up to another. -/
def wordsBetween (words : List String) (start stop : Nat) : List String := (words.take stop).drop start

/-- The indices of the words `is` that split a condition, found from left to right: such a word stands
between two words and not directly behind one that splits. The first of `words` has the index `k`, and
`behindWord` says that it stands behind a word that does not split. -/
def separators (k : Nat) (behindWord : Bool) : List String → List Nat
  | [] => []
  | word :: rest =>
    if word = "is" ∧ behindWord = true ∧ rest ≠ [] then k :: separators (k + 1) false rest
    else separators (k + 1) true rest

/-- A condition is split by exactly one `is`. -/
def Condition.ofWords? (words : List String) : Option Condition :=
  match separators 0 false words with
  | [k] => some ⟨.ofPhrase (" ".intercalate (wordsBetween words 0 k)),
      .ofPhrase (" ".intercalate (wordsBetween words (k + 1) words.length))⟩
  | _ => none

namespace Text

variable {words : List String}

theorem exists_unwords_eq_cons (h : ∀ w ∈ words, IsWord w) (hne : words ≠ []) :
    ∃ c cs, unwords words = c :: cs ∧ isBlank c = false := by
  obtain ⟨word, rest, rfl⟩ := List.exists_cons_of_ne_nil hne
  obtain ⟨c, cs, hcs, hc⟩ := (h word (.head _)).exists_cons
  exact ⟨c, cs ++ gap rest, by rw [unwords_cons, hcs, List.cons_append], hc⟩

/-- Words with blanks between them have none at their ends. -/
theorem trimmed_unwords (h : ∀ w ∈ words, IsWord w) : Trimmed (unwords words) := by
  induction words with
  | nil => exact ⟨nofun, nofun⟩
  | cons word words ih =>
    refine ⟨fun c hc => ?_, fun c hc => ?_⟩
    · obtain ⟨d, ds, hds, hd⟩ := exists_unwords_eq_cons h nofun
      rw [hds] at hc
      cases hc
      exact hd
    · cases words with
      | nil =>
        rw [unwords_cons, gap, List.append_nil] at hc
        exact (h word (.head _)).not_blank c (List.mem_of_getLast? hc)
      | cons word' words =>
        have hrest : ∀ w ∈ word' :: words, IsWord w := fun w hw => h w (.tail _ hw)
        obtain ⟨d, ds, hds, -⟩ := exists_unwords_eq_cons hrest nofun
        refine (ih hrest).2 c ?_
        rw [unwords_cons, gap, hds, List.getLast?_append_cons, List.getLast?_cons_cons] at hc
        exact hds ▸ hc

theorem dropWhile_gap (h : ∀ w ∈ words, IsWord w) : (gap words).dropWhile isBlank = unwords words := by
  cases words with
  | nil => rfl
  | cons word words =>
    rw [gap, List.dropWhile_cons_of_pos rfl, dropWhile_isBlank_of_head (trimmed_unwords h).1]

end Text

namespace Condition

open Text

variable {word : String} {words : List String} {inBlanks : Bool} {c : Char} {cs more : List Char}

theorem parts_of_some (h : (if inBlanks then none else afterSeparator? cs) = some more) :
    parts inBlanks cs = [] :: parts false more := by
  rw [parts]
  split
  · next heq =>
    cases h.symm.trans heq
    rfl
  · next heq => cases h.symm.trans heq

/-- Characters in front of the first part. -/
def prepend (cs : List Char) : List (List Char) → List (List Char)
  | part :: others => (cs ++ part) :: others
  | [] => [cs]

theorem parts_of_none (h : (if inBlanks then none else afterSeparator? (c :: cs)) = none) :
    parts inBlanks (c :: cs) = prepend [c] (parts (isBlank c) cs) := by
  rw [parts]
  split
  · next heq => cases h.symm.trans heq
  · dsimp only
    cases parts (isBlank c) cs <;> rfl

theorem prepend_append {cs ds : List Char} (ps : List (List Char)) :
    prepend cs (prepend ds ps) = prepend (cs ++ ds) ps := by
  cases ps <;> simp [prepend]

theorem parts_nil : parts inBlanks [] = [[]] := by
  rw [parts]
  split
  · next heq => cases inBlanks <;> cases heq
  · rfl

/-- Characters other than blanks stay together. -/
theorem parts_append (hcs : ∀ c ∈ cs, isBlank c = false) (hne : cs ≠ []) (more : List Char) :
    parts inBlanks (cs ++ more) = prepend cs (parts false more) := by
  induction cs generalizing inBlanks with
  | nil => exact absurd rfl hne
  | cons c cs ih =>
    have hc := hcs c (.head _)
    have hnone : (if inBlanks then none else afterSeparator? (c :: (cs ++ more))) = none := by
      simp [afterSeparator?, hc]
    rw [List.cons_append, parts_of_none hnone, hc]
    cases cs with
    | nil => rfl
    | cons d ds => rw [ih (fun c hc => hcs c (.tail _ hc)) (List.cons_ne_nil d ds), prepend_append]; rfl

/-- Behind a word a separator begins if there is an `is` and one more word behind that. -/
theorem afterSeparator?_gap (h : ∀ w ∈ word :: words, IsWord w) :
    afterSeparator? (gap (word :: words)) =
      if word = "is" ∧ words ≠ [] then some (unwords words) else none := by
  have hwords : ∀ w ∈ words, IsWord w := fun w hw => h w (.tail _ hw)
  rw [afterSeparator?, dropWhile_gap h, unwords_cons, if_pos (by rfl)]
  by_cases hword : word = "is"
  · subst hword
    cases words with
    | nil => rfl
    | cons word' words =>
      rw [if_pos ⟨rfl, List.cons_ne_nil word' words⟩, ← dropWhile_gap hwords]
      rfl
  · rw [if_neg fun hboth => hword hboth.1]
    split
    · next more heq =>
      -- The word begins with these two letters, and goes on.
      rcases hcs : word.toList with _ | ⟨a, _ | ⟨b, cs⟩⟩
      · exact absurd hcs (h word (.head _)).ne_nil
      · rw [hcs] at heq
        cases words <;> cases heq
      · rw [hcs] at heq
        simp only [List.cons_append, List.cons.injEq] at heq
        obtain ⟨rfl, rfl, rfl⟩ := heq
        cases cs with
        | nil => exact absurd (String.toList_inj.1 (hcs.trans rfl)) hword
        | cons c cs =>
          have hc := (h word (.head _)).not_blank c (by simp [hcs])
          simp [hc]
    · rfl

/-- The words between the separators. -/
def clauses : List String → List (List String)
  | [] => [[]]
  | [word] => [[word]]
  | word :: word' :: rest =>
    if word' = "is" ∧ rest ≠ [] then [word] :: clauses rest
    else (clauses (word' :: rest)).modifyHead (word :: ·)

/-- The first clause begins with the first word. -/
theorem exists_clauses_eq_cons (word : String) (words : List String) :
    ∃ clause others, clauses (word :: words) = (word :: clause) :: others := by
  induction words generalizing word with
  | nil => exact ⟨[], [], rfl⟩
  | cons word' rest ih =>
    rw [clauses]
    split
    · exact ⟨[], _, rfl⟩
    · obtain ⟨clause, others, hclauses⟩ := ih word'
      exact ⟨word' :: clause, others, by rw [hclauses]; rfl⟩

theorem parts_unwords (h : ∀ w ∈ words, IsWord w) :
    parts inBlanks (unwords words) = (clauses words).map unwords := by
  induction words using clauses.induct generalizing inBlanks with
  | case1 => exact parts_nil
  | case2 word =>
    obtain ⟨hne, hword⟩ := h word (.head _)
    rw [unwords_cons, parts_append hword hne, gap, parts_nil]
    simp [clauses, prepend, unwords_cons, gap]
  | case3 word word' rest hsplit ih =>
    obtain ⟨hne, hword⟩ := h word (.head _)
    have hrest : ∀ w ∈ word' :: rest, IsWord w := fun w hw => h w (.tail _ hw)
    have hsome : (if false then none else afterSeparator? (gap (word' :: rest))) =
        some (unwords rest) := (afterSeparator?_gap hrest).trans (if_pos hsplit)
    rw [unwords_cons, parts_append hword hne, parts_of_some hsome,
      ih fun w hw => hrest w (.tail _ hw), clauses, if_pos hsplit]
    simp [prepend, unwords_cons, gap]
  | case4 word word' rest hsplit ih =>
    obtain ⟨hne, hword⟩ := h word (.head _)
    have hrest : ∀ w ∈ word' :: rest, IsWord w := fun w hw => h w (.tail _ hw)
    have hnone : (if false then none else afterSeparator? (' ' :: unwords (word' :: rest))) = none :=
      (afterSeparator?_gap hrest).trans (if_neg hsplit)
    obtain ⟨clause, others, hclauses⟩ := exists_clauses_eq_cons word' rest
    rw [unwords_cons, parts_append hword hne, gap, parts_of_none hnone, ih hrest, clauses,
      if_neg hsplit, hclauses]
    simp [prepend, unwords_cons word (word' :: clause), gap]

/-- The clauses are what the separators leave. -/
theorem clauses_eq (k : Nat) (hne : words ≠ []) :
    (separators k false words = [] ∧ clauses words = [words]) ∨
      ∃ i, 0 < i ∧ i + 1 < words.length ∧
        separators k false words = (k + i) :: separators (k + i + 1) false (words.drop (i + 1)) ∧
        clauses words = words.take i :: clauses (words.drop (i + 1)) := by
  induction words using clauses.induct generalizing k with
  | case1 => exact absurd rfl hne
  | case2 word => exact .inl ⟨by simp [separators], rfl⟩
  | case3 word word' rest hsplit =>
    refine .inr ⟨1, Nat.one_pos, ?_, ?_, ?_⟩
    · simpa [List.length_pos_iff] using hsplit.2
    · simp [separators, hsplit]
    · simp [clauses, hsplit]
  | case4 word word' rest hsplit ih =>
    have hseparators : separators k false (word :: word' :: rest) =
        separators (k + 1) false (word' :: rest) := by
      simp [separators, hsplit]
    rw [hseparators, clauses, if_neg hsplit]
    rcases ih (k + 1) nofun with ⟨hnone, hclauses⟩ | ⟨i, -, hi, hsome, hclauses⟩
    · exact .inl ⟨hnone, by rw [hclauses]; rfl⟩
    · refine .inr ⟨i + 1, Nat.succ_pos i, Nat.succ_lt_succ hi, ?_, by rw [hclauses]; rfl⟩
      rw [hsome, Nat.add_right_comm, Nat.add_assoc k]
      rfl

/-- Words are not blank. -/
theorem isEmpty_trimChars_unwords (h : ∀ w ∈ words, IsWord w) (hne : words ≠ []) :
    (trimChars (unwords words)).isEmpty = false := by
  obtain ⟨c, cs, hcs, -⟩ := exists_unwords_eq_cons h hne
  rw [trimChars_eq_self (trimmed_unwords h), hcs]
  rfl

/-- **A condition is read word by word.** -/
theorem read?_unwords (h : ∀ w ∈ words, IsWord w) : read? (unwords words) = ofWords? words := by
  by_cases hne : words = []
  · subst hne
    rw [unwords_nil, read?, parts_nil]
    rfl
  rw [read?, parts_unwords h, ofWords?]
  rcases clauses_eq 0 hne with ⟨hnone, hclauses⟩ | ⟨i, hpos, hi, hsome, hclauses⟩
  · rw [hnone, hclauses]
    rfl
  rw [hsome, hclauses]
  have hbehind : words.drop (i + 1) ≠ [] := by
    rw [← List.length_pos_iff, List.length_drop]
    omega
  rcases clauses_eq (0 + i + 1) hbehind with ⟨hnone, hclauses⟩ | ⟨i', -, hi', hsome, hclauses⟩
  · have hfield : words.take i ≠ [] := by
      rw [← List.length_pos_iff, List.length_take]
      omega
    rw [hnone, hclauses]
    simp only [List.map_cons, List.map_nil, wordsBetween, List.take_length, Nat.zero_add, List.drop_zero,
      isEmpty_trimChars_unwords (fun w hw => h w (List.mem_of_mem_take hw)) hfield,
      isEmpty_trimChars_unwords (fun w hw => h w (List.mem_of_mem_drop hw)) hbehind,
      ofList_unwords, Bool.or_self, Bool.false_eq_true, if_false]
  · -- A second separator leaves a third clause.
    obtain ⟨word, rest, hrest⟩ := List.exists_cons_of_ne_nil (l := (words.drop (i + 1)).drop (i' + 1))
      (by rw [← List.length_pos_iff, List.length_drop]; omega)
    obtain ⟨clause, others, hothers⟩ := exists_clauses_eq_cons word rest
    rw [hsome, hclauses, hrest, hothers]
    rfl

end Condition

end Fieldbook
