import Fieldbook.Console.Program
import Fieldbook.Proofs.Command.Grammar
import Fieldbook.Proofs.Console.Lines
import Fieldbook.Proofs.Exchange.Plan
import Fieldbook.Proofs.Text.Lowering

/-!
# Columns in sentences

A column that can be added by its label can be spoken of in sentences, by its label and by its id
(`Task.declare_addressable`). What a phrase stands for is found out from the phrase in lower case, by the
table of synonyms, by the keys of the fixed fields, and else as a label. An id with an underscore is in no
table; one without is all there is of its label, and its label was asked about when the column was added
(`Field.ofPhrase_idOfLabel`).

Words that sentences are made of may stand for columns and values too: a sentence is taken apart at the
first place where each of its own words can stand (`Command.parse_setWhere`, `Command.parse_deleteWhere`).
-/

namespace Fieldbook

namespace Text

/-- A word in lower case. -/
structure IsLowWord (word : String) : Prop extends IsWord word where
  isLow : ∀ c ∈ word.toList, IsLow c

/-- A word that lower-casing leaves as it is. -/
theorem isLowWord_of_lower_eq {word : String} (h : IsWord word) (hlower : lower word = word) :
    IsLowWord word where
  toIsWord := h
  isLow := by
    rw [← hlower, toList_lower]
    exact fun c => isLow_of_mem_lowerChars

theorem isLowWord_of_isLowAscii {words : List String}
    (h : (words.all fun word => word != "" && word.toList.all isLowAscii) = true) :
    ∀ word ∈ words, IsLowWord word := by
  intro word hword
  have hword := List.all_eq_true.1 h word hword
  rw [Bool.and_eq_true, bne_iff_ne, List.all_eq_true] at hword
  obtain ⟨hne, hplain⟩ := hword
  exact
    { ne_nil := mt String.toList_eq_nil_iff.1 hne
      not_blank := fun c hc => (isLow_of_isLowAscii (hplain c hc)).2
      isLow := fun c hc => (isLow_of_isLowAscii (hplain c hc)).1 }

theorem IsLowWord.lower_eq {word : String} (h : IsLowWord word) : lower word = word := by
  rw [lower, lowerChars_eq_self h.isLow, String.ofList_toList]

theorem IsWord.trim_eq {word : String} (h : IsWord word) : trim word = word :=
  trim_eq_self ⟨fun _ hc => h.not_blank _ (List.mem_of_head? hc),
    fun _ hc => h.not_blank _ (List.mem_of_getLast? hc)⟩

/-- A word has itself for its only word. -/
theorem IsWord.words_eq {word : String} (h : IsWord word) : words word = [word] := by
  rw [words, wordChars_eq_singleton h.not_blank h.ne_nil, List.map_singleton, String.ofList_toList]

theorem isLow_of_mem_unwords {words : List String} (h : ∀ word ∈ words, IsLowWord word) :
    ∀ c ∈ unwords words, IsLow c := by
  intro c hc
  obtain hc | ⟨part, hpart, hc⟩ := mem_intercalate hc
  · obtain rfl := List.mem_singleton.1 hc
    exact ⟨by decide, by decide +kernel⟩
  · obtain ⟨word, hword, rfl⟩ := List.mem_map.1 hpart
    exact (h word hword).isLow c hc

end Text

open Text

/-! ## Ids and labels -/

namespace Column

variable {label : String}

/-- The phrase that a label is read as has the same id. -/
theorem idOfLabel_lower_trim (label : String) : idOfLabel (lower (trim label)) = idOfLabel label := by
  rw [idOfLabel, trim_eq_self (trimmed_lower (trim_trim label)), lower_lower, idOfLabel]

/-- A word in lower case is its own id. -/
theorem idOfLabel_of_isLowWord {word : String} (h : IsLowWord word) : idOfLabel word = word := by
  rw [idOfLabel, h.toIsWord.trim_eq, h.lower_eq, h.toIsWord.words_eq, String.intercalate_singleton]

theorem isLow_idOfLabel {c : Char} (hc : c ∈ (idOfLabel label).toList) : IsLow c := by
  rw [idOfLabel, String.toList_intercalate] at hc
  obtain hc | ⟨part, hpart, hc⟩ := mem_intercalate hc
  · have heq : c = '_' := List.mem_singleton.1 hc
    subst heq
    exact ⟨by decide, by decide +kernel⟩
  · obtain ⟨word, hword, rfl⟩ := List.mem_map.1 hpart
    have hmem := (mem_of_mem_words hword hc).1
    rw [toList_lower] at hmem
    exact isLow_of_mem_lowerChars hmem

/-- **An id is its own id.** -/
theorem idOfLabel_idOfLabel (label : String) : idOfLabel (idOfLabel label) = idOfLabel label := by
  by_cases hempty : idOfLabel label = ""
  · rw [hempty]
    decide
  · exact idOfLabel_of_isLowWord
      { ne_nil := mt String.toList_eq_nil_iff.1 hempty
        not_blank := fun _ hc => (char_idOfLabel hc).1
        isLow := fun _ => isLow_idOfLabel }

/-- An id is read as the phrase that it is. -/
theorem lower_trim_idOfLabel (label : String) : lower (trim (idOfLabel label)) = idOfLabel label := by
  have htrim : trim (idOfLabel label) = idOfLabel label :=
    trim_eq_self ⟨fun _ hc => (char_idOfLabel (List.mem_of_head? hc)).1,
      fun _ hc => (char_idOfLabel (List.mem_of_getLast? hc)).1⟩
  rw [htrim, lower, lowerChars_eq_self fun _ => isLow_idOfLabel, String.ofList_toList]

/-- An id without an underscore is all there is of its label. -/
theorem lower_trim_eq_idOfLabel (h : '_' ∉ (idOfLabel label).toList) :
    lower (trim label) = idOfLabel label := by
  have htrimmed := trimmed_lower (trim_trim label)
  rw [idOfLabel] at h ⊢
  rcases hwords : words (lower (trim label)) with _ | ⟨word, _ | ⟨word', rest⟩⟩
  · rw [words, List.map_eq_nil_iff] at hwords
    exact String.toList_eq_nil_iff.1 (eq_nil_of_wordChars_eq_nil htrimmed hwords)
  · rw [eq_of_words_eq_singleton htrimmed hwords, String.intercalate_singleton]
  · rw [hwords, String.toList_intercalate, List.map_cons, List.map_cons, List.intercalate_cons_cons] at h
    simp at h

/-- Only what is blank has no id. -/
theorem trim_eq_empty (h : idOfLabel label = "") : trim label = "" := by
  have hlower : lower (trim label) = idOfLabel label :=
    lower_trim_eq_idOfLabel (by rw [h]; exact List.not_mem_nil)
  by_contra hne
  exact lower_ne_nil hne (by rw [hlower, h]; rfl)

end Column

/-! ## Fields by phrases -/

namespace Field

variable {phrase : String} {f : Field}

theorem ofSynonym?_eq_some (h : ofSynonym? phrase = some f) : f ∈ fixed ∧ '_' ∉ phrase.toList := by
  unfold ofSynonym? at h
  split at h <;> cases h <;> exact ⟨by decide, by decide⟩

theorem ofKey?_eq_some (h : ofKey? phrase = some f) : f ∈ fixed ∧ '_' ∉ phrase.toList := by
  rw [ofKey?] at h
  have hf := List.mem_of_find?_eq_some h
  have hsame : sameLetters f.key phrase = true := by simpa using List.find?_some h
  refine ⟨hf, fun hmem => ?_⟩
  have hkeys : ∀ f ∈ fixed, '_' ∉ f.key.toList.map Char.toLower := by decide
  have hlower : '_' ∈ phrase.toList.map Char.toLower := List.mem_map.2 ⟨'_', hmem, by decide⟩
  rw [← sameLetters_iff.1 hsame] at hlower
  exact hkeys f hf hlower

/-- The fixed field that a phrase in lower case names, if it names one. -/
def named? (phrase : String) : Option Field := (ofSynonym? phrase).or (ofKey? phrase)

theorem named?_eq_some (h : named? phrase = some f) : f ∈ fixed ∧ '_' ∉ phrase.toList := by
  rcases Option.or_eq_some_iff.1 h with h | ⟨-, h⟩
  · exact ofSynonym?_eq_some h
  · exact ofKey?_eq_some h

theorem ne_dynamic_of_mem_fixed (h : f ∈ fixed) (id : String) : f ≠ .dynamic id := by
  rintro rfl
  simp [fixed, Stat.all] at h

/-- A phrase names a fixed field or is the label of a column. -/
theorem ofPhrase_eq (phrase : String) :
    ofPhrase phrase = (named? (lower (trim phrase))).getD (.dynamic (Column.idOfLabel phrase)) := by
  have htrim : trim (lower (trim phrase)) = lower (trim phrase) :=
    trim_eq_self (trimmed_lower (trim_trim phrase))
  rw [ofPhrase, named?, ofKey, htrim]
  cases ofSynonym? (lower (trim phrase)) with
  | some f => rfl
  | none =>
    cases hkey : ofKey? (lower (trim phrase)) with
    | some f =>
      have hf := ne_dynamic_of_mem_fixed (ofKey?_eq_some hkey).1
      dsimp only [Option.getD_some, Option.none_or]
      split
      · exact absurd rfl (hf _)
      · rfl
    | none =>
      dsimp only [Option.getD_none, Option.none_or]
      rw [Column.idOfLabel_lower_trim]

theorem ofPhrase_eq_dynamic_iff {id : String} :
    ofPhrase phrase = .dynamic id ↔ named? (lower (trim phrase)) = none ∧ Column.idOfLabel phrase = id := by
  rw [ofPhrase_eq]
  cases hnamed : named? (lower (trim phrase)) with
  | none => simp
  | some f => simp [ne_dynamic_of_mem_fixed (named?_eq_some hnamed).1 id]

/-- **A label that names no fixed field has an id that names none either**, and is the label of its column. -/
theorem ofPhrase_idOfLabel {id : String} (h : ofPhrase phrase = .dynamic id) :
    id = Column.idOfLabel phrase ∧ ofPhrase id = .dynamic id := by
  obtain ⟨hnone, rfl⟩ := ofPhrase_eq_dynamic_iff.1 h
  refine ⟨rfl, ofPhrase_eq_dynamic_iff.2 ⟨?_, Column.idOfLabel_idOfLabel phrase⟩⟩
  rw [Column.lower_trim_idOfLabel]
  by_cases hunderscore : '_' ∈ (Column.idOfLabel phrase).toList
  · refine Option.eq_none_iff_forall_ne_some.2 fun f hf => ?_
    exact (named?_eq_some hf).2 hunderscore
  · rw [← Column.lower_trim_eq_idOfLabel hunderscore]
    exact hnone

end Field

/-! ## Sentences about columns -/

namespace Command

variable {c v w : String}

/-- A condition of three words, the second of them `is`. -/
theorem ofWords?_is (c w : String) : Condition.ofWords? [c, "is", w] = some ⟨.ofPhrase c, .ofPhrase w⟩ := by
  simp [Condition.ofWords?, separators, wordsBetween]

/-- **A sentence that sets one field where another has a value** is read as such whatever words stand for
the fields and the values. -/
theorem ofWords_setWhere (f v c w : String) :
    ofWords ["set", f, "to", v, "where", c, "is", w] =
      update (.ofPhrase f) (.ofPhrase v) ⟨.ofPhrase c, .ofPhrase w⟩ := by
  have hto : leastFrom 2 ["set", f, "to", v, "where", c, "is", w]
      (fun i => ["set", f, "to", v, "where", c, "is", w][i]? = some "to") = some 2 :=
    leastFrom_eq_some_iff.2 ⟨by omega, by simp, by simp, fun m hm hm2 => by omega⟩
  have htype : leastFrom 4 ["set", f, "to", v, "where", c, "is", w]
      (isByType ["set", f, "to", v, "where", c, "is", w]) = none := by
    refine leastFrom_eq_none_iff.2 fun m hm hlength => ?_
    simp only [List.length_cons, List.length_nil] at hlength
    -- The word behind `for` would be `where`, `is`, or none at all.
    interval_cases m <;> simp [isByType]
  have hwhere : leastFrom 4 ["set", f, "to", v, "where", c, "is", w]
      (isWhere ["set", f, "to", v, "where", c, "is", w]) = some 4 :=
    leastFrom_eq_some_iff.2 ⟨by omega, by simp, by simp [isWhere], fun m hm hm4 => by omega⟩
  rw [ofWords, if_pos (.inl rfl), updateOfWords, hto]
  dsimp only
  rw [htype, hwhere]
  simp [wordsBetween, ofWords?_is]

/-- **A sentence that removes rows where a field has a value** is read as such whatever words stand for
the field and the value. -/
theorem ofWords_deleteWhere (c w : String) :
    ofWords ["delete", "where", c, "is", w] = delete ⟨.ofPhrase c, .ofPhrase w⟩ := by
  rw [ofWords, if_neg (by decide), if_pos rfl]
  simp [deleteCondition?, ofWords?_is]

theorem parse_words {words : List String} (h : ∀ word ∈ words, IsLowWord word) :
    parse (" ".intercalate words) = ofWords words :=
  parse_unwords (fun word hword => (h word hword).toIsWord) (lowerChars_eq_self (isLow_of_mem_unwords h))

/-- A sentence is read by its words, and what its own words are does not depend on the others. -/
theorem parse_setWhere {f v c w : String} (hf : IsLowWord f) (hv : IsLowWord v) (hc : IsLowWord c)
    (hw : IsLowWord w) :
    parse s!"set {f} to {v} where {c} is {w}" =
      update (.ofPhrase f) (.ofPhrase v) ⟨.ofPhrase c, .ofPhrase w⟩ := by
  have hwords : ∀ word ∈ ["set", f, "to", v, "where", c, "is", w], IsLowWord word := by
    have hown : ∀ word ∈ ["set", "to", "where", "is"], IsLowWord word := isLowWord_of_isLowAscii (by decide)
    simp only [List.forall_mem_cons] at hown ⊢
    obtain ⟨hset, hto, hwhere, his, -⟩ := hown
    exact ⟨hset, hf, hto, hv, hwhere, hc, his, hw, List.forall_mem_nil _⟩
  have htext : s!"set {f} to {v} where {c} is {w}" =
      " ".intercalate ["set", f, "to", v, "where", c, "is", w] := by
    rw [← String.toList_inj]
    simp [toString]
  rw [htext, parse_words hwords, ofWords_setWhere]

theorem parse_deleteWhere {c w : String} (hc : IsLowWord c) (hw : IsLowWord w) :
    parse s!"delete where {c} is {w}" = delete ⟨.ofPhrase c, .ofPhrase w⟩ := by
  have hwords : ∀ word ∈ ["delete", "where", c, "is", w], IsLowWord word := by
    have hown : ∀ word ∈ ["delete", "where", "is"], IsLowWord word := isLowWord_of_isLowAscii (by decide)
    simp only [List.forall_mem_cons] at hown ⊢
    obtain ⟨hdelete, hwhere, his, -⟩ := hown
    exact ⟨hdelete, hwhere, hc, his, hw, List.forall_mem_nil _⟩
  have htext : s!"delete where {c} is {w}" = " ".intercalate ["delete", "where", c, "is", w] := by
    rw [← String.toList_inj]
    simp [toString]
  rw [htext, parse_words hwords, ofWords_deleteWhere]

end Command

/-! ## Columns that were added -/

namespace Task

variable {set after : WorkingSet} {label : String} {kind : ColumnKind}

/-- What it takes for a column to be added. -/
theorem of_declare (h : declare set label kind = .ok (after, true)) :
    Text.isBlankText label = false ∧ (∃ id, Field.ofPhrase label = .dynamic id) ∧
      after.columns = set.columns ++ [.ofLabel label kind] := by
  rw [declare] at h
  split at h
  · cases h
  · next hblank =>
    split at h
    · next id hid =>
      refine ⟨eq_false_of_ne_true hblank, ⟨id, hid⟩, ?_⟩
      rw [WorkingSet.declareColumn] at h
      split at h
      · cases h
      · split at h
        · cases h
        · cases h
          rfl
    · cases h

theorem isLowWord_id (h : Text.isBlankText label = false) : IsLowWord (Column.idOfLabel label) where
  ne_nil := by
    intro hnil
    rw [Text.isBlankText, Column.trim_eq_empty (String.toList_eq_nil_iff.1 hnil)] at h
    cases h
  not_blank := fun _ hc => (Column.char_idOfLabel hc).1
  isLow := fun _ => Column.isLow_idOfLabel

/-- **A column that was added can be spoken of**, by its label and by its id, in every place of a sentence
and next to any words, even if its id or a value is a word that sentences are made of. -/
theorem declare_addressable (h : declare set label kind = .ok (after, true)) :
    ∃ id, after.columns = set.columns ++ [⟨id, Text.trim label, kind⟩] ∧
      Field.ofPhrase label = .dynamic id ∧ Field.ofPhrase id = .dynamic id ∧
      ∀ v w, IsWord v → lower v = v → IsWord w → lower w = w →
        Command.parse s!"set {id} to {v} where {id} is {w}" =
          .update (.dynamic id) (.ofPhrase v) ⟨.dynamic id, .ofPhrase w⟩ ∧
        Command.parse s!"delete where {id} is {w}" = .delete ⟨.dynamic id, .ofPhrase w⟩ := by
  obtain ⟨hblank, ⟨id, hlabel⟩, hcolumns⟩ := of_declare h
  obtain ⟨hid, hphrase⟩ := Field.ofPhrase_idOfLabel hlabel
  refine ⟨id, ?_, hlabel, hphrase, fun v w hv hvlower hw hwlower => ?_⟩
  · rw [hcolumns, Column.ofLabel, hid]
  have hword : IsLowWord id := hid ▸ isLowWord_id hblank
  have hv := isLowWord_of_lower_eq hv hvlower
  have hw := isLowWord_of_lower_eq hw hwlower
  constructor
  · rw [Command.parse_setWhere hword hv hword hw, hphrase]
  · rw [Command.parse_deleteWhere hword hw, hphrase]

/-- The column is called like a word of the sentence, and so are its values. -/
theorem declare_addressable_to :
    ∃ after : WorkingSet, declare .empty " TO " .text = .ok (after, true) ∧
      after.columns = [⟨"to", "TO", .text⟩] ∧ IsWord "where" ∧ lower "where" = "where" ∧
      IsWord "is" ∧ lower "is" = "is" ∧
      Command.parse "set to to where where to is is" =
        .update (.dynamic "to") (.text "where") ⟨.dynamic "to", .text "is"⟩ ∧
      Command.parse "delete where to is is" = .delete ⟨.dynamic "to", .text "is"⟩ := by
  have hadded : declare .empty " TO " .text = .ok ({ columns := [⟨"to", "TO", .text⟩] }, true) := by
    have hphrase : Field.ofPhrase " TO " = .dynamic "to" := by decide +kernel
    have hcolumn : Column.ofLabel " TO " .text = ⟨"to", "TO", .text⟩ := by decide +kernel
    have hblank : Text.isBlankText " TO " = false := by decide +kernel
    have hfree : Column.isReserved ⟨"to", "TO", .text⟩ = false := by decide +kernel
    simp [declare, hblank, hphrase, hcolumn, WorkingSet.declareColumn, hfree, WorkingSet.empty, Except.mapError]
  have hwords : ∀ word ∈ ["where", "is"], IsLowWord word := isLowWord_of_isLowAscii (by decide)
  simp only [List.forall_mem_cons] at hwords
  obtain ⟨hwhere, his, -⟩ := hwords
  obtain ⟨id, hcolumns, -, -, hsentences⟩ := declare_addressable hadded
  obtain ⟨hset, hdelete⟩ :=
    hsentences "where" "is" hwhere.toIsWord hwhere.lower_eq his.toIsWord his.lower_eq
  have hid : id = "to" := by
    simpa [WorkingSet.empty] using (congrArg (List.map Column.id) hcolumns).symm
  subst hid
  refine ⟨_, hadded, rfl, hwhere.toIsWord, hwhere.lower_eq, his.toIsWord, his.lower_eq, ?_, ?_⟩
  · exact hset
  · exact hdelete

end Task

end Fieldbook
