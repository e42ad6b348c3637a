import Fieldbook.Proofs.Command.Columns

/-!
# Fields written with other blanks

What blanks stand between the words of a label makes no difference to the id that belongs to it, since the id
is made of the words (`Column.idOfLabel_collapse`). The table of synonyms is asked for the phrase as it is
written, and four of its entries are two words with a single space between them. So a phrase names the same
field when every run of blanks in it is replaced by a single space, unless that makes it one of the four: then
it names a statistic with the single space, and is taken for the label of a column without
(`Field.ofPhrase_collapse`).
-/

namespace Fieldbook

namespace Text

variable {cs : List Char} {s t : String}

/-! ## Words with single spaces -/

theorem isWord_of_mem_words {word : String} (h : word ∈ words s) : IsWord word where
  ne_nil := by
    obtain ⟨cs, hcs, rfl⟩ := List.mem_map.1 h
    rw [String.toList_ofList]
    simpa using (List.mem_filter.1 hcs).2
  not_blank := fun _ hc => (mem_of_mem_words h hc).2

theorem words_unwords {parts : List String} (h : ∀ word ∈ parts, IsWord word) :
    words (String.ofList (unwords parts)) = parts := by
  rw [words, String.toList_ofList]
  induction parts with
  | nil => rfl
  | cons word parts ih =>
    obtain ⟨⟨hne, hword⟩, hparts⟩ := List.forall_mem_cons.1 h
    have hsingle := wordChars_eq_singleton hword hne
    rw [unwords_cons]
    cases parts with
    | nil => rw [gap, List.append_nil, hsingle, List.map_singleton, String.ofList_toList]
    | cons word' parts =>
      rw [gap, wordChars_append rfl, hsingle, List.singleton_append, List.map_cons, ih hparts,
        String.ofList_toList]

/-! ## Words in lower case -/

theorem wordChars_lowerChars_of_not_blank (h : ∀ c ∈ cs, isBlank c = false) :
    wordChars (lowerChars cs) = (wordChars cs).map lowerChars := by
  have hlower : ∀ c ∈ lowerChars cs, isBlank c = false := by
    intro c hc
    cases hblank : isBlank c with
    | false => rfl
    | true => exact hblank.symm.trans (h c ((mem_lowerChars_of_isBlank hblank).1 hc))
  by_cases hempty : cs = []
  · rw [hempty]
    rfl
  · rw [wordChars_eq_singleton h hempty, wordChars_eq_singleton hlower (mt lowerAfter_eq_nil_iff.1 hempty),
      List.map_singleton]

theorem wordChars_lowerChars (cs : List Char) : wordChars (lowerChars cs) = (wordChars cs).map lowerChars := by
  -- The word that was begun is carried along until a blank ends it.
  suffices hbegun : ∀ begun, (∀ c ∈ begun, isBlank c = false) →
      wordChars (lowerChars (begun ++ cs)) = (wordChars (begun ++ cs)).map lowerChars from hbegun [] nofun
  induction cs with
  | nil =>
    intro begun h
    rw [List.append_nil]
    exact wordChars_lowerChars_of_not_blank h
  | cons c cs ih =>
    intro begun h
    cases hc : isBlank c with
    | true =>
      have hcs : wordChars (lowerChars cs) = (wordChars cs).map lowerChars := ih [] nofun
      rw [lowerChars_append_of_isBlank hc, wordChars_append hc, wordChars_append hc,
        wordChars_lowerChars_of_not_blank h, hcs, List.map_append]
    | false =>
      have hmore := ih (begun ++ [c]) (List.forall_mem_append.2 ⟨h, List.forall_mem_singleton.2 hc⟩)
      rwa [List.append_assoc, List.singleton_append] at hmore

/-- **The words of a text in lower case are its words in lower case.** -/
theorem words_lower (s : String) : words (lower s) = (words s).map lower := by
  rw [words, toList_lower, wordChars_lowerChars, words, List.map_map, List.map_map]
  refine List.map_congr_left fun cs _ => ?_
  rw [Function.comp_apply, Function.comp_apply, lower, String.toList_ofList]

theorem lowerChars_unwords (words : List String) : lowerChars (unwords words) = unwords (words.map lower) := by
  induction words with
  | nil => rfl
  | cons word words ih =>
    rw [unwords_cons, List.map_cons, unwords_cons, toList_lower]
    cases words with
    | nil => rw [gap, List.append_nil, List.map_nil, gap, List.append_nil]
    | cons word' words => rw [gap, lowerChars_append_blank, ih, List.map_cons, gap]

/-- A trimmed text with the words of a text without blanks is that text. -/
theorem eq_of_words_eq (hs : Trimmed s.toList) (hblank : ∀ c ∈ t.toList, isBlank c = false)
    (h : words s = words t) : s = t := by
  by_cases hempty : t.toList = []
  · rw [words, words, hempty] at h
    have hnil : s.toList = [] := eq_nil_of_wordChars_eq_nil hs (List.map_eq_nil_iff.1 h)
    rw [← String.toList_inj, hnil, hempty]
  · rw [IsWord.words_eq ⟨hempty, hblank⟩] at h
    exact eq_of_words_eq_singleton hs h

/-- No blank is a capital. -/
theorem toLower_of_isBlank {c : Char} (h : isBlank c = true) : c.toLower = c := by
  refine toLower_eq_self ?_
  simp only [isBlank, Bool.or_eq_true, Bool.and_eq_true, decide_eq_true_eq, beq_iff_eq] at h
  omega

/-! ## Single spaces -/

/-- The text with a single space for each run of blanks between its words. The blanks at its ends stay. -/
def collapse (s : String) : String :=
  let inner := s.toList.dropWhile isBlank
  String.ofList (s.toList.takeWhile isBlank ++ unwords (words s) ++ inner.rtakeWhile isBlank)

/-- Between the blanks at its ends the text has its words with single spaces. -/
theorem toList_collapse (s : String) : ∃ front back,
    (∀ b ∈ front, isBlank b = true) ∧ (∀ b ∈ back, isBlank b = true) ∧
      (collapse s).toList = front ++ unwords (words s) ++ back :=
  ⟨_, _, fun _ => List.mem_takeWhile_imp, fun _ => List.mem_rtakeWhile_imp, String.toList_ofList⟩

example : collapse "\t fan \t favorite  " = "\t fan favorite  " := by decide

theorem trim_collapse (s : String) : trim (collapse s) = String.ofList (unwords (words s)) := by
  obtain ⟨front, back, hfront, hback, hs⟩ := toList_collapse s
  rw [trim, hs, trimChars_blanks_around hfront hback (trimmed_unwords fun _ => isWord_of_mem_words)]

/-- **A text keeps its words with single spaces between them.** -/
@[simp]
theorem words_collapse (s : String) : words (collapse s) = words s := by
  rw [← words_trim, trim_collapse, words_unwords fun _ => isWord_of_mem_words]

/-- What a text with single spaces is read as is made of its words. -/
theorem lower_trim_collapse (s : String) :
    lower (trim (collapse s)) = String.ofList (unwords ((words s).map lower)) := by
  rw [trim_collapse, lower, String.toList_ofList, lowerChars_unwords]

end Text

open Text

/-! ## Ids of labels -/

namespace Column

/-- The id that belongs to a label is made of its words. -/
theorem idOfLabel_eq (label : String) : idOfLabel label = "_".intercalate ((words label).map lower) := by
  rw [idOfLabel, words_lower, words_trim]

/-- **The blanks of a label make no difference to its id.** -/
theorem idOfLabel_collapse (label : String) : idOfLabel (collapse label) = idOfLabel label := by
  rw [idOfLabel_eq, words_collapse, idOfLabel_eq]

end Column

/-! ## Fields -/

namespace Field

variable {phrase : String} {f : Field}

/-- The synonyms of two words. -/
def pairs : List String := ["sp. atk", "special attack", "sp. def", "special defense"]

/-- The phrase has the words of such a synonym, but not a single space between them. -/
def IsSpread (phrase : String) : Prop :=
  lower (trim (collapse phrase)) ∈ pairs ∧ lower (trim phrase) ≠ lower (trim (collapse phrase))

theorem ofSynonym?_of_mem_pairs (h : phrase ∈ pairs) :
    ∃ s ∈ [Stat.specialAttack, Stat.specialDefense], ofSynonym? phrase = some (.stat s) := by
  have hall : ∀ phrase ∈ pairs,
      ∃ s ∈ [Stat.specialAttack, Stat.specialDefense], ofSynonym? phrase = some (.stat s) := by
    decide
  exact hall phrase h

theorem eq_unwords_of_mem_pairs (h : phrase ∈ pairs) : phrase = String.ofList (unwords (words phrase)) := by
  have hall : ∀ phrase ∈ pairs, phrase = String.ofList (unwords (words phrase)) := by decide
  exact hall phrase h

/-- What names a fixed field is one of the pairs or holds no blank. -/
theorem mem_pairs_of_named? (h : named? phrase = some f) :
    phrase ∈ pairs ∨ phrase.toList.all (!isBlank ·) = true := by
  rcases Option.or_eq_some_iff.1 h with h | ⟨-, h⟩
  · unfold ofSynonym? at h
    split at h <;> cases h <;> decide
  · right
    have hsame : sameLetters f.key phrase = true := by simpa using List.find?_some h
    have hkeys : ∀ f ∈ fixed, (f.key.toList.map Char.toLower).all (!isBlank ·) = true := by decide
    have hkey := hkeys f (List.mem_of_find?_eq_some h)
    rw [sameLetters_iff.1 hsame, List.all_map] at hkey
    refine List.all_eq_true.2 fun c hc => ?_
    cases hblank : isBlank c with
    | false => rfl
    | true =>
      have hlower := List.all_eq_true.1 hkey c hc
      rw [Function.comp_apply, toLower_of_isBlank hblank, hblank] at hlower
      cases hlower

/-- A phrase that blanks make a difference to names a fixed field only as one of the pairs. -/
theorem mem_pairs_of_ne {other : String} (hother : Trimmed other.toList) (hwords : words other = words phrase)
    (hne : other ≠ phrase) (h : named? phrase = some f) : phrase ∈ pairs := by
  refine (mem_pairs_of_named? h).resolve_right fun hplain => hne ?_
  exact eq_of_words_eq hother (fun c hc => by simpa using List.all_eq_true.1 hplain c hc) hwords

/-- **A phrase names the same field with a single space for each of its runs of blanks**, unless that makes
it one of the pairs: then it names a statistic, and is the label of a column as it is written. -/
theorem ofPhrase_collapse (phrase : String) :
    (¬ IsSpread phrase → ofPhrase (collapse phrase) = ofPhrase phrase) ∧
      (IsSpread phrase → ofPhrase phrase = .dynamic (Column.idOfLabel phrase) ∧
        ∃ s ∈ [Stat.specialAttack, Stat.specialDefense], ofPhrase (collapse phrase) = .stat s) := by
  have hread : Trimmed (lower (trim phrase)).toList := trimmed_lower (trim_trim phrase)
  have hcollapsed : Trimmed (lower (trim (collapse phrase))).toList := trimmed_lower (trim_trim _)
  have hwords : words (lower (trim (collapse phrase))) = words (lower (trim phrase)) := by
    simp only [words_lower, words_trim, words_collapse]
  have hsingle : lower (trim (collapse phrase)) = String.ofList (unwords (words (lower (trim phrase)))) := by
    rw [lower_trim_collapse, words_lower, words_trim]
  rw [ofPhrase_eq, ofPhrase_eq phrase, Column.idOfLabel_collapse, IsSpread]
  generalize lower (trim phrase) = read at hread hwords hsingle ⊢
  generalize lower (trim (collapse phrase)) = collapsed at hcollapsed hwords hsingle ⊢
  by_cases hsame : read = collapsed
  · rw [hsame]
    exact ⟨fun _ => rfl, fun hspread => absurd rfl hspread.2⟩
  -- The pairs have their single spaces already.
  have hnone : named? read = none := Option.eq_none_iff_forall_ne_some.2 fun f hf => by
    have hpair := mem_pairs_of_ne hcollapsed hwords (Ne.symm hsame) hf
    exact hsame ((eq_unwords_of_mem_pairs hpair).trans hsingle.symm)
  rw [hnone]
  constructor
  · intro hspread
    have hnone' : named? collapsed = none := Option.eq_none_iff_forall_ne_some.2 fun f hf =>
      hspread ⟨mem_pairs_of_ne hread hwords.symm hsame hf, hsame⟩
    rw [hnone']
  · rintro ⟨hpair, -⟩
    obtain ⟨s, hs, hsynonym⟩ := ofSynonym?_of_mem_pairs hpair
    rw [named?, hsynonym]
    exact ⟨rfl, s, hs, rfl⟩

/-- `special  attack` with two spaces is the label of a column that cannot be: its id would be taken for the
statistic. -/
theorem ofPhrase_special_attack :
    collapse "special  attack" = "special attack" ∧ ofPhrase "special attack" = .stat .specialAttack ∧
      ofPhrase "special  attack" = .dynamic "special_attack" ∧
        (Column.ofLabel "special  attack" .number).isReserved = true := by
  decide +kernel

end Field

end Fieldbook
