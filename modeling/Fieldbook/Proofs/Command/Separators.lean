import Fieldbook.Proofs.Command.Columns

/-!
# Conditions with any blanks

A condition is split at its separators, and a separator is the word `is` with any blanks around it. A text
that has none is one part (`Condition.parts_eq_singleton`), and one that has one is at least two
(`Condition.two_le_length_parts`). So whether `<field> is <value>` can be read depends on the value only, if
the field is a name (`Condition.read?_is`): a name cannot be taken for more, not even with the blank behind
it. Around such a condition the sentence `delete where` is read by the condition
(`Command.parse_deleteWhere_is`).
-/

namespace Fieldbook

namespace Condition

open Text

variable {cs ds run rest more : List Char} {b : Char} {inBlanks : Bool}

/-- A separator stands in the text: the word `is` between blanks. -/
def Splits (cs : List Char) : Prop :=
  ∃ b b', isBlank b = true ∧ isBlank b' = true ∧ [b, 'i', 's', b'] <:+: cs

/-- A separator begins with the first of these characters. -/
def beginsSeparator : List Char → Bool
  | b :: 'i' :: 's' :: b' :: _ => isBlank b && isBlank b'
  | _ => false

theorem splits_iff : (∃ tail ∈ cs.tails, beginsSeparator tail = true) ↔ Splits cs := by
  constructor
  · rintro ⟨tail, htail, hbegins⟩
    rw [List.mem_tails] at htail
    unfold beginsSeparator at hbegins
    split at hbegins
    · next b b' more =>
      rw [Bool.and_eq_true] at hbegins
      refine ⟨b, b', hbegins.1, hbegins.2, ?_⟩
      exact List.IsInfix.trans (List.prefix_append [b, 'i', 's', b'] more).isInfix htail.isInfix
    · cases hbegins
  · rintro ⟨b, b', hb, hb', front, rest, rfl⟩
    refine ⟨b :: 'i' :: 's' :: b' :: rest, (List.mem_tails ..).2 ⟨front, by simp⟩, ?_⟩
    simp [beginsSeparator, hb, hb']

instance (cs : List Char) : Decidable (Splits cs) := decidable_of_iff _ splits_iff

/-- A separator in a part of a text is one in the text. -/
theorem Splits.mono (h : Splits cs) (hwithin : cs <:+: ds) : Splits ds := by
  obtain ⟨b, b', hb, hb', hword⟩ := h
  exact ⟨b, b', hb, hb', hword.trans hwithin⟩

theorem splits_of_run (hne : run ≠ []) (hrun : ∀ c ∈ run, isBlank c = true) (hb : isBlank b = true)
    (rest : List Char) : Splits (run ++ 'i' :: 's' :: b :: rest) := by
  obtain ⟨run', c, rfl⟩ := (List.eq_nil_or_concat' run).resolve_left hne
  exact ⟨c, b, hrun c (by simp), hb, run', rest, by simp⟩

/-- What is found at the front of a text is blanks, the word `is` and at least one more blank. -/
theorem of_afterSeparator? (h : afterSeparator? cs = some more) :
    ∃ run b rest, run ≠ [] ∧ (∀ c ∈ run, isBlank c = true) ∧ isBlank b = true ∧
      cs = run ++ 'i' :: 's' :: b :: rest := by
  rw [afterSeparator?] at h
  split at h
  · next hfirst =>
    obtain ⟨c, hc, hblank⟩ := (Option.any_eq_true ..).1 hfirst
    have hrun : cs.takeWhile isBlank ≠ [] := by
      cases cs with
      | nil => cases hc
      | cons d ds =>
        cases hc
        simp [hblank]
    split at h
    · next rest hrest =>
      split at h
      · next hbehind =>
        obtain ⟨b, hb, hblank⟩ := (Option.any_eq_true ..).1 hbehind
        obtain ⟨rest', rfl⟩ := List.head?_eq_some_iff.1 hb
        refine ⟨cs.takeWhile isBlank, b, rest', hrun, fun c hc => ?_, hblank, ?_⟩
        · exact List.all_eq_true.1 List.all_takeWhile c hc
        · rw [← hrest, List.takeWhile_append_dropWhile]
      · cases h
    · cases h
  · cases h

/-- Behind a separator the text goes on with its next character that is no blank. -/
theorem afterSeparator?_run (hne : run ≠ []) (hrun : ∀ c ∈ run, isBlank c = true)
    (hb : isBlank b = true) (rest : List Char) :
    afterSeparator? (run ++ 'i' :: 's' :: b :: rest) = some (rest.dropWhile isBlank) := by
  obtain ⟨c, run', rfl⟩ := List.exists_cons_of_ne_nil hne
  have hdrop : (c :: run' ++ 'i' :: 's' :: b :: rest).dropWhile isBlank = 'i' :: 's' :: b :: rest := by
    rw [List.dropWhile_append_of_pos hrun]
    rfl
  have hfirst : (c :: run' ++ 'i' :: 's' :: b :: rest).head?.any isBlank = true := hrun c (.head _)
  rw [afterSeparator?, if_pos hfirst, hdrop]
  simp [hb]

/-- **A text without separators is one part.** -/
theorem parts_eq_singleton (h : ¬ Splits cs) : parts inBlanks cs = [cs] := by
  induction cs generalizing inBlanks with
  | nil => exact parts_nil
  | cons c cs ih =>
    have hnone : (if inBlanks then none else afterSeparator? (c :: cs)) = none := by
      refine Option.eq_none_iff_forall_ne_some.2 fun more hmore => h ?_
      cases inBlanks with
      | true => cases hmore
      | false =>
        obtain ⟨run, b, rest, hne, hrun, hb, hcs⟩ := of_afterSeparator? hmore
        exact hcs ▸ splits_of_run hne hrun hb rest
    rw [parts_of_none hnone, ih fun hsplits => h (hsplits.mono (List.suffix_cons c cs).isInfix)]
    rfl

theorem length_prepend (cs : List Char) {ps : List (List Char)} (h : ps ≠ []) :
    (prepend cs ps).length = ps.length := by
  obtain ⟨part, others, rfl⟩ := List.exists_cons_of_ne_nil h
  rfl

theorem parts_ne_nil : parts inBlanks cs ≠ [] := by
  rw [parts]
  split
  · exact List.cons_ne_nil _ _
  · split
    · exact List.cons_ne_nil _ _
    · split <;> exact List.cons_ne_nil _ _

/-- Where blanks and an `is` stand, behind which there is one more blank, the text is split if it is not before. -/
theorem two_le_length_parts_append {front : List Char} (hne : run ≠ []) (hrun : ∀ c ∈ run, isBlank c = true)
    (hb : isBlank b = true) (hfront : ∀ c, front.getLast? = some c → isBlank c = false)
    (hbegins : front = [] → inBlanks = false) :
    2 ≤ (parts inBlanks (front ++ (run ++ 'i' :: 's' :: b :: rest))).length := by
  induction front generalizing inBlanks with
  | nil =>
    have hsome : (if false then none else afterSeparator? (run ++ 'i' :: 's' :: b :: rest)) = some _ :=
      afterSeparator?_run hne hrun hb rest
    rw [List.nil_append, hbegins rfl, parts_of_some hsome]
    exact Nat.succ_le_succ (List.length_pos_iff.2 parts_ne_nil)
  | cons c front ih =>
    rw [List.cons_append]
    cases hat : if inBlanks then none else afterSeparator? (c :: (front ++ (run ++ 'i' :: 's' :: b :: rest))) with
    | some more =>
      rw [parts_of_some hat]
      exact Nat.succ_le_succ (List.length_pos_iff.2 parts_ne_nil)
    | none =>
      rw [parts_of_none hat, length_prepend _ parts_ne_nil]
      refine ih (fun d hd => hfront d ?_) fun hnil => hfront c (by rw [hnil]; rfl)
      rw [List.getLast?_cons, hd]
      rfl

/-- **A text with a separator has two parts at least.** -/
theorem two_le_length_parts (h : Splits cs) : 2 ≤ (parts false cs).length := by
  obtain ⟨b, b', hb, hb', front, rest, rfl⟩ := h
  -- All the blanks in front of the word belong to the separator.
  have hrun : (front ++ [b]).rtakeWhile isBlank ≠ [] := by simp [hb]
  have htext : front ++ [b, 'i', 's', b'] ++ rest = (front ++ [b]).rdropWhile isBlank ++
      ((front ++ [b]).rtakeWhile isBlank ++ 'i' :: 's' :: b' :: rest) := by
    rw [← List.append_assoc, List.rdropWhile_append_rtakeWhile]
    simp
  rw [htext]
  refine two_le_length_parts_append hrun (fun c => List.mem_rtakeWhile_imp) hb' (fun c hc => ?_) fun _ => rfl
  obtain ⟨hne, rfl⟩ := List.mem_getLast?_eq_getLast hc
  exact eq_false_of_ne_true (List.rdropWhile_last_not isBlank _ hne)

/-- No separator begins in a text that has none, even if a blank follows the text. -/
theorem afterSeparator?_append_blank (hne : cs ≠ [])
    (htrimmed : ∀ c, cs.getLast? = some c → isBlank c = false) (h : ¬ Splits (cs ++ [' ']))
    (ds : List Char) : afterSeparator? (cs ++ ' ' :: ds) = none := by
  refine Option.eq_none_iff_forall_ne_some.2 fun more hmore => ?_
  obtain ⟨run, b, rest, hrun, hblanks, hb, htext⟩ := of_afterSeparator? hmore
  rcases List.append_eq_append_iff.1 htext with ⟨t, rfl, -⟩ | ⟨t, rfl, ht⟩
  · -- The text would consist of blanks.
    have hlast := List.getLast?_eq_some_getLast hne
    have hblank := hblanks _ (List.mem_append_left t (List.getLast_mem hne))
    rw [htrimmed _ hlast] at hblank
    cases hblank
  · rcases t with _ | ⟨i, _ | ⟨s, _ | ⟨b', t⟩⟩⟩
    · cases ht
    · cases ht
    · cases ht
      exact h (by simpa using splits_of_run hrun hblanks hb [])
    · cases ht
      exact h (by simpa using splits_of_run hrun hblanks hb (t ++ [' ']))

/-- **The first separator of a text is the one behind a text without any.** -/
theorem parts_append_separator (htrimmed : ∀ c, cs.getLast? = some c → isBlank c = false)
    (hbegins : cs = [] → inBlanks = false) (hcs : ¬ Splits (cs ++ [' ']))
    (hds : ∀ c, ds.head? = some c → isBlank c = false) :
    parts inBlanks (cs ++ ' ' :: 'i' :: 's' :: ' ' :: ds) = cs :: parts false ds := by
  induction cs generalizing inBlanks with
  | nil =>
    have hsome : (if false then none else afterSeparator? (' ' :: 'i' :: 's' :: ' ' :: ds)) = some ds :=
      (afterSeparator?_run (List.cons_ne_nil ' ' []) (List.forall_mem_singleton.2 rfl) rfl ds).trans
        (congrArg some (dropWhile_isBlank_of_head hds))
    rw [List.nil_append, hbegins rfl, parts_of_some hsome]
  | cons c cs ih =>
    have hnone : (if inBlanks then none else
        afterSeparator? (c :: (cs ++ ' ' :: 'i' :: 's' :: ' ' :: ds))) = none := by
      cases inBlanks with
      | true => rfl
      | false => exact afterSeparator?_append_blank (List.cons_ne_nil c cs) htrimmed hcs _
    rw [List.cons_append, parts_of_none hnone, ih]
    · rfl
    · intro d hd
      refine htrimmed d ?_
      rw [List.getLast?_cons, hd]
      rfl
    · rintro rfl
      exact htrimmed c rfl
    · exact fun hsplits => hcs (hsplits.mono (List.suffix_cons c _).isInfix)

theorem isEmpty_trimChars (h : Trimmed cs) (hne : cs ≠ []) : (trimChars cs).isEmpty = false := by
  rw [trimChars_eq_self h]
  exact List.isEmpty_eq_false_iff.2 hne

/-- **A condition is read unless a separator stands in its value.** -/
theorem read?_is (hcs : Trimmed cs) (hne : cs ≠ []) (hfield : ¬ Splits (cs ++ [' '])) (hds : Trimmed ds)
    (hne' : ds ≠ []) :
    read? (cs ++ ' ' :: 'i' :: 's' :: ' ' :: ds) =
      if Splits ds then none
      else some ⟨.ofPhrase (String.ofList cs), .ofPhrase (String.ofList ds)⟩ := by
  have hparts := @parts_append_separator cs ds false hcs.2 (fun hnil => absurd hnil hne) hfield hds.1
  rw [read?, hparts]
  by_cases hvalue : Splits ds
  · rw [if_pos hvalue]
    have hlength := two_le_length_parts hvalue
    rcases hvalues : parts false ds with _ | ⟨part, _ | ⟨part', others⟩⟩
    · exact absurd hvalues parts_ne_nil
    · rw [hvalues] at hlength
      exact absurd hlength (Nat.lt_irrefl 1)
    · rfl
  · rw [if_neg hvalue, parts_eq_singleton hvalue]
    simp [isEmpty_trimChars hcs hne, isEmpty_trimChars hds hne']

/-- A phrase that the field of a condition can be called by. -/
structure IsName (phrase : String) : Prop where
  trim_eq : trim phrase = phrase
  ne_empty : phrase ≠ ""
  no_break : '\n' ∉ phrase.toList
  /-- Not even with the blank behind it. -/
  not_splits : ¬ Splits ((lower phrase).toList ++ [' '])

/-- Words are names. -/
theorem isName_of_isWord {word : String} (h : IsWord word) : IsName word where
  trim_eq := h.trim_eq
  ne_empty := mt String.toList_eq_nil_iff.2 h.ne_nil
  no_break := fun hmem => absurd (h.not_blank _ hmem) (by decide)
  not_splits := by
    rintro ⟨b, b', hb, -, front, rest, hword⟩
    -- It is not the blank behind the word, for an `is` comes after it.
    have hfront : (front ++ [b, 'i', 's', b'] ++ rest).dropLast = (lower word).toList := by
      rw [hword, List.dropLast_concat]
    have hmem : b ∈ (lower word).toList := by
      rw [← hfront]
      simp
    have hblank := h.not_blank b ((mem_lower_of_isBlank hb).1 hmem)
    rw [hb] at hblank
    cases hblank

/-- The text of a condition in lower case. -/
def lowerChars (name value : String) : List Char :=
  (lower name).toList ++ ' ' :: 'i' :: 's' :: ' ' :: (lower value).toList

variable {name value : String}

/-- Trimmed texts with anything between them are trimmed together. -/
theorem trimmed_append {cs ds more : List Char} (hcs : Trimmed cs) (hne : cs ≠ []) (hds : Trimmed ds)
    (hne' : ds ≠ []) : Trimmed (cs ++ more ++ ds) := by
  refine ⟨fun c hc => hcs.1 c ?_, fun c hc => hds.2 c ?_⟩
  · rwa [List.append_assoc, List.head?_append_of_ne_nil cs hne] at hc
  · rwa [List.getLast?_append_of_ne_nil _ hne'] at hc

theorem trimmed_lowerChars_is (hname : IsName name) (htrim : trim value = value) (hne : value ≠ "") :
    Trimmed (lowerChars name value) := by
  have h := @trimmed_append _ _ [' ', 'i', 's', ' '] (trimmed_lower hname.trim_eq)
    (lower_ne_nil hname.ne_empty) (trimmed_lower htrim) (lower_ne_nil hne)
  simpa [lowerChars] using h

theorem newline_mem_lowerChars_is (hname : IsName name) :
    '\n' ∈ lowerChars name value ↔ '\n' ∈ value.toList := by
  have hbreak : ∀ s : String, '\n' ∈ (lower s).toList ↔ '\n' ∈ s.toList := fun s =>
    mem_lower_of_isBlank rfl
  rw [lowerChars, List.mem_append, hbreak, or_iff_right hname.no_break]
  simp [hbreak]

/-- A phrase names the same field in lower case. -/
theorem ofPhrase_lower {phrase : String} (h : trim phrase = phrase) :
    Field.ofPhrase (lower phrase) = Field.ofPhrase phrase := by
  rw [Field.ofPhrase, Field.ofPhrase, trim_eq_self (trimmed_lower h), lower_lower, h]

/-- The condition of a name and a value is read unless a separator stands in the value. -/
theorem read?_lowerChars (hname : IsName name) (htrim : trim value = value) (hne : value ≠ "") :
    read? (lowerChars name value) =
      if Splits (lower value).toList then none else some ⟨.ofPhrase name, .ofPhrase (lower value)⟩ := by
  rw [lowerChars, read?_is (trimmed_lower hname.trim_eq) (lower_ne_nil hname.ne_empty) hname.not_splits
    (trimmed_lower htrim) (lower_ne_nil hne), String.ofList_toList, String.ofList_toList,
    ofPhrase_lower hname.trim_eq]

end Condition

namespace Command

open Text

variable {cs ds : List Char}

/-- A phrase at the end of a pattern is all that is left, unless a line break stands in it. -/
theorem shortestPhrase_nil (cs : List Char) :
    Pattern.shortestPhrase (Pattern.match? []) cs =
      if cs = [] ∨ '\n' ∈ cs then none else some (cs, []) := by
  induction cs with
  | nil => rfl
  | cons c cs ih =>
    rw [Pattern.shortestPhrase]
    by_cases hc : c = '\n'
    · simp [hc]
    · rw [if_neg hc, ih]
      cases cs with
      | nil => simp [Pattern.match?, Ne.symm hc]
      | cons d ds =>
        have hmore : Pattern.match? [] (d :: ds) = none := rfl
        by_cases hbreak : '\n' ∈ d :: ds
        · simp [hmore, hbreak]
        · simp [hmore, hbreak, Ne.symm hc]

/-- A single blank is a whole run of blanks if none follows it. -/
theorem longestRun_blank {α : Type} (next : List Char → Option α)
    (h : ∀ c, cs.head? = some c → isBlank c = false) :
    Pattern.longestRun isBlank next (' ' :: cs) = next cs := by
  have hnone : Pattern.longestRun isBlank next cs = none := by
    cases cs with
    | nil => rfl
    | cons c cs => rw [Pattern.longestRun, h c rfl]; rfl
  rw [Pattern.longestRun, hnone]
  rfl

theorem match?_word (word : String) (rest : Pattern) (cs : List Char) :
    Pattern.match? (.oneOf [word] :: rest) (word.toList ++ cs) = Pattern.match? rest cs := by
  have hafter : Pattern.afterWord? word.toList (word.toList ++ cs) = some cs := by
    simp [Pattern.afterWord?]
  rw [Pattern.match?, List.findSome?_singleton, hafter, Option.bind_some]

theorem match?_blanks (rest : Pattern) (h : ∀ c, cs.head? = some c → isBlank c = false) :
    Pattern.match? (.blanks :: rest) (' ' :: cs) = Pattern.match? rest cs :=
  longestRun_blank _ h

/-- A sentence that removes rows by a condition. -/
def deleteSentence (condition : List Char) : List Char :=
  "delete".toList ++ ' ' :: ("where".toList ++ ' ' :: condition)

theorem deleteSentence_eq (condition : List Char) :
    deleteSentence condition = "delete".toList ++ ' ' :: ("where".toList ++ ' ' :: condition) := rfl

theorem match?_delete (rest : Pattern) (condition : List Char) :
    Pattern.match? (.oneOf ["delete"] :: .blanks :: rest) (deleteSentence condition) =
      Pattern.match? rest ("where".toList ++ ' ' :: condition) := by
  rw [deleteSentence_eq, match?_word]
  refine match?_blanks rest fun c hc => ?_
  cases hc
  rfl

/-- **What a deletion is about is all of its condition**, unless that goes over a line. -/
theorem find?_deleteSentence (hcs : Trimmed cs) (hne : cs ≠ []) :
    deleteWhere.find? (deleteSentence cs) = if '\n' ∈ cs then none else some [cs] := by
  rw [Pattern.find?_eq_match?, deleteWhere, match?_delete, match?_word, match?_blanks _ hcs.1,
    Pattern.match?, shortestPhrase_nil]
  by_cases hbreak : '\n' ∈ cs
  · simp [hbreak]
  · simp [hbreak, hne]

/-- **A sentence that removes rows is read by its condition**, unless a line break stands in it. -/
theorem ofSentence_deleteSentence (hcs : Trimmed cs) (hne : cs ≠ []) :
    ofSentence (deleteSentence cs) = if '\n' ∈ cs then unrecognized else withCondition cs delete := by
  have hupdate : ∀ verb ∈ ["set", "update"], ¬ verb.toList <+: deleteSentence cs := by
    simp [deleteSentence_eq]
  have hfirst : updateByType.find? (deleteSentence cs) = none :=
    (Pattern.find?_eq_match? _ _).trans (match?_verbs_eq_none hupdate _)
  have hsecond : updateWhere.find? (deleteSentence cs) = none :=
    (Pattern.find?_eq_match? _ _).trans (match?_verbs_eq_none hupdate _)
  have hrows : deleteRowsWhere.find? (deleteSentence cs) = none := by
    rw [Pattern.find?_eq_match?, deleteRowsWhere, match?_delete]
    exact match?_verbs_eq_none (by simp) _
  rw [ofSentence, hfirst, hsecond, hrows, find?_deleteSentence hcs hne]
  by_cases hbreak : '\n' ∈ cs
  · rw [if_pos hbreak, if_pos hbreak]
    rfl
  · rw [if_neg hbreak, if_neg hbreak]
    rfl

theorem lowerChars_deleteSentence (cs : List Char) :
    lowerChars (deleteSentence cs) = deleteSentence (lowerChars cs) := by
  have hlow : ∀ word ∈ ["delete", "where"], IsLowWord word := isLowWord_of_isLowAscii (by decide)
  simp only [List.forall_mem_cons] at hlow
  obtain ⟨hdelete, hwhere, -⟩ := hlow
  rw [deleteSentence_eq, lowerChars_append_blank, lowerChars_append_blank, lowerChars_eq_self hdelete.isLow,
    lowerChars_eq_self hwhere.isLow, deleteSentence_eq]

theorem trimmed_deleteSentence (h : Trimmed cs) (hne : cs ≠ []) : Trimmed (deleteSentence cs) := by
  have hdelete : Trimmed "delete".toList := ⟨fun c hc => by cases hc; rfl, fun c hc => by cases hc; rfl⟩
  have happend := @Condition.trimmed_append _ _ (' ' :: ("where".toList ++ [' '])) hdelete
    (List.cons_ne_nil _ _) h hne
  simpa [deleteSentence_eq] using happend

variable {name value : String}

/-- The condition of a name and a value, as it is written. -/
theorem toList_deleteWhere (name value : String) :
    s!"delete where {name} is {value}".toList =
      deleteSentence (name.toList ++ ' ' :: ("is".toList ++ ' ' :: value.toList)) := by
  simp [toString, deleteSentence_eq]

/-- **What a sentence that removes rows by a value is read as**: what it says, unless its value has a line
break or a separator, and then nothing. -/
theorem parse_deleteWhere_is (hname : Condition.IsName name) (htrim : trim value = value)
    (hne : value ≠ "") :
    parse s!"delete where {name} is {value}" =
      if '\n' ∈ value.toList ∨ Condition.Splits (lower value).toList then unrecognized
      else delete ⟨.ofPhrase name, .ofPhrase (lower value)⟩ := by
  have hlower : lowerChars (name.toList ++ ' ' :: ("is".toList ++ ' ' :: value.toList)) =
      Condition.lowerChars name value := by
    have his : lowerChars "is".toList = "is".toList := by decide +kernel
    rw [lowerChars_append_blank, lowerChars_append_blank, his, ← toList_lower, ← toList_lower,
      Condition.lowerChars]
    rfl
  have htrimmed : Trimmed (name.toList ++ ' ' :: ("is".toList ++ ' ' :: value.toList)) := by
    have happend := @Condition.trimmed_append _ _ " is ".toList (trimmed_toList_of_trim_eq hname.trim_eq)
      (mt String.toList_eq_nil_iff.1 hname.ne_empty) (trimmed_toList_of_trim_eq htrim)
      (mt String.toList_eq_nil_iff.1 hne)
    simpa using happend
  have hcondition := Condition.trimmed_lowerChars_is hname htrim hne
  have hread := Condition.read?_lowerChars hname htrim hne
  have hbreak := @Condition.newline_mem_lowerChars_is name value hname
  have hne' : Condition.lowerChars name value ≠ [] := by simp [Condition.lowerChars]
  rw [parse, toList_deleteWhere, trimChars_eq_self (trimmed_deleteSentence htrimmed (by simp)),
    lowerChars_deleteSentence, hlower]
  generalize Condition.lowerChars name value = cs at hcondition hread hbreak hne' ⊢
  rw [ofSentence_deleteSentence hcondition hne', withCondition, trimChars_eq_self hcondition, hread]
  by_cases hline : '\n' ∈ value.toList
  · rw [if_pos (hbreak.2 hline), if_pos (.inl hline)]
  · rw [if_neg (mt hbreak.1 hline)]
    by_cases hsplits : Condition.Splits (lower value).toList
    · rw [if_pos hsplits, if_pos (.inr hsplits)]
    · rw [if_neg hsplits, if_neg (not_or.2 ⟨hline, hsplits⟩)]

end Command

end Fieldbook
