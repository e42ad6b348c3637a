import Fieldbook.Proofs.Command.Columns

/-!
# Parts of a sentence that are missing

The phrases of a sentence lie between its words (`Pattern.fits_of_match?`), and blanks around a phrase are
taken off only when it is read. So it depends on what looks at a phrase before whether it may be blank: the
two sides of a condition are looked at, and a sentence ends with what is no blank, but nothing looks at the
field and the value of an update. They can be blank if there are blanks enough to stand for them, one in the
place of the phrase and one on each side of it (`Command.parse_wholeIn`).
-/

namespace Fieldbook

/-! ## What a pattern fits -/

namespace Pattern

open Text

/-- The text can be cut into the pieces of the pattern, and these are the phrases. -/
inductive Fits : Pattern → List (List Char) → List Char → Prop where
  | nil : Fits [] [] []
  | oneOf {words : List String} {word : String} {rest : Pattern} {phrases : List (List Char)}
      {cs : List Char} (hword : word ∈ words) (h : Fits rest phrases cs) :
      Fits (.oneOf words :: rest) phrases (word.toList ++ cs)
  | blanks {run : List Char} {rest : Pattern} {phrases : List (List Char)} {cs : List Char}
      (hne : run ≠ []) (hrun : ∀ c ∈ run, isBlank c = true) (h : Fits rest phrases cs) :
      Fits (.blanks :: rest) phrases (run ++ cs)
  | token {run : List Char} {rest : Pattern} {phrases : List (List Char)} {cs : List Char}
      (hne : run ≠ []) (hrun : ∀ c ∈ run, isBlank c = false) (h : Fits rest phrases cs) :
      Fits (.token :: rest) phrases (run ++ cs)
  | phrase {taken : List Char} {rest : Pattern} {phrases : List (List Char)} {cs : List Char}
      (hne : taken ≠ []) (hline : '\n' ∉ taken) (h : Fits rest phrases cs) :
      Fits (.phrase :: rest) (taken :: phrases) (taken ++ cs)

section

variable {rest : Pattern} {phrases : List (List Char)} {cs : List Char}

theorem Fits.of_oneOf {words : List String} (h : Fits (.oneOf words :: rest) phrases cs) :
    ∃ word ∈ words, ∃ more, cs = word.toList ++ more ∧ Fits rest phrases more := by
  cases h with
  | oneOf hword h => exact ⟨_, hword, _, rfl, h⟩

theorem Fits.of_blanks (h : Fits (.blanks :: rest) phrases cs) :
    ∃ run, run ≠ [] ∧ (∀ c ∈ run, isBlank c = true) ∧ ∃ more, cs = run ++ more ∧ Fits rest phrases more := by
  cases h with
  | blanks hne hrun h => exact ⟨_, hne, hrun, _, rfl, h⟩

theorem Fits.of_phrase (h : Fits (.phrase :: rest) phrases cs) :
    ∃ taken others, taken ≠ [] ∧ '\n' ∉ taken ∧ phrases = taken :: others ∧
      ∃ more, cs = taken ++ more ∧ Fits rest others more := by
  cases h with
  | phrase hne hline h => exact ⟨_, _, hne, hline, rfl, _, rfl, h⟩

end

variable {α : Type} {a : α} {next : List Char → Option α} {cs taken : List Char}

/-- What a run finds is behind one of its lengths. -/
theorem of_longestRun {test : Char → Bool} (h : longestRun test next cs = some a) :
    ∃ run more, run ≠ [] ∧ (∀ c ∈ run, test c = true) ∧ cs = run ++ more ∧ next more = some a := by
  induction cs with
  | nil => cases h
  | cons c cs ih =>
    rw [longestRun] at h
    split at h
    · next hc =>
      split at h
      · next a' hlonger =>
        cases h
        obtain ⟨run, more, -, hrun, rfl, hnext⟩ := ih hlonger
        exact ⟨c :: run, more, List.cons_ne_nil c run, List.forall_mem_cons.2 ⟨hc, hrun⟩, rfl, hnext⟩
      · exact ⟨[c], cs, List.cons_ne_nil c [], List.forall_mem_singleton.2 hc, rfl, h⟩
    · cases h

/-- What a phrase finds is behind one of its ends. -/
theorem of_shortestPhrase (h : shortestPhrase next cs = some (taken, a)) :
    ∃ more, taken ≠ [] ∧ '\n' ∉ taken ∧ cs = taken ++ more ∧ next more = some a := by
  induction cs generalizing taken with
  | nil => cases h
  | cons c cs ih =>
    rw [shortestPhrase] at h
    split at h
    · cases h
    · next hc =>
      split at h
      · next a' hnext =>
        cases h
        exact ⟨cs, List.cons_ne_nil c [], by simpa using Ne.symm hc, rfl, hnext⟩
      · obtain ⟨⟨taken', a'⟩, hlonger, heq⟩ := Option.map_eq_some_iff.1 h
        cases heq
        obtain ⟨more, -, hline, rfl, hnext⟩ := ih hlonger
        exact ⟨more, List.cons_ne_nil c taken', List.not_mem_cons_of_ne_of_not_mem (Ne.symm hc) hline, rfl, hnext⟩

/-- **What a pattern answers are the phrases of a cut of the text.** -/
theorem fits_of_match? {pattern : Pattern} {phrases : List (List Char)}
    (h : pattern.match? cs = some phrases) : Fits pattern phrases cs := by
  induction pattern generalizing cs phrases with
  | nil =>
    rw [match?] at h
    split at h
    · next hnil =>
      cases h
      obtain rfl := List.isEmpty_iff.1 hnil
      exact .nil
    · cases h
  | cons piece rest ih =>
    cases piece with
    | oneOf words =>
      obtain ⟨word, hword, hfound⟩ := List.exists_of_findSome?_eq_some h
      obtain ⟨more, hafter, hmatch⟩ := Option.bind_eq_some_iff.1 hfound
      rw [afterWord?] at hafter
      split at hafter
      · next hprefix =>
        cases hafter
        obtain ⟨more, rfl⟩ := List.isPrefixOf_iff_prefix.1 hprefix
        rw [List.drop_left] at hmatch
        exact .oneOf hword (ih hmatch)
      · cases hafter
    | blanks =>
      obtain ⟨run, more, hne, hrun, rfl, hmatch⟩ := of_longestRun h
      exact .blanks hne hrun (ih hmatch)
    | token =>
      obtain ⟨run, more, hne, hrun, rfl, hmatch⟩ := of_longestRun h
      exact .token hne (fun c hc => by simpa using hrun c hc) (ih hmatch)
    | phrase =>
      obtain ⟨⟨taken, phrases'⟩, hshortest, rfl⟩ := Option.map_eq_some_iff.1 h
      obtain ⟨more, hne, hline, rfl, hmatch⟩ := of_shortestPhrase hshortest
      exact .phrase hne hline (ih hmatch)

/-- What is found in a text is one way to cut it. -/
theorem fits_of_find? {pattern : Pattern} {phrases : List (List Char)}
    (h : pattern.find? cs = some phrases) : Fits pattern phrases cs :=
  fits_of_match? ((find?_eq_match? pattern cs).symm.trans h)

/-- The text ends with the last of the phrases, which is not empty. -/
def EndsWith (phrases : List (List Char)) (cs : List Char) : Prop :=
  ∃ taken, phrases.getLast? = some taken ∧ taken ≠ [] ∧ taken <:+ cs

theorem EndsWith.append {phrases : List (List Char)} (h : EndsWith phrases cs) (front : List Char) :
    EndsWith phrases (front ++ cs) := by
  obtain ⟨taken, hphrases, hne, hsuffix⟩ := h
  exact ⟨taken, hphrases, hne, hsuffix.trans (List.suffix_append front cs)⟩

theorem getLast?_of_ne {piece last : Piece} {rest : Pattern}
    (hlast : (piece :: rest).getLast? = some last) (h : piece ≠ last) : rest.getLast? = some last := by
  cases rest with
  | nil => exact absurd (Option.some.inj hlast) h
  | cons piece' rest => exact hlast

/-- **A phrase at the end of a pattern is at the end of the text.** -/
theorem Fits.endsWith {pattern : Pattern} {phrases : List (List Char)} (h : Fits pattern phrases cs)
    (hlast : pattern.getLast? = some .phrase) : EndsWith phrases cs := by
  induction h with
  | nil => cases hlast
  | oneOf _ _ ih => exact (ih (getLast?_of_ne hlast nofun)).append _
  | blanks _ _ _ ih => exact (ih (getLast?_of_ne hlast nofun)).append _
  | token _ _ _ ih => exact (ih (getLast?_of_ne hlast nofun)).append _
  | @phrase taken rest phrases cs hne _ h ih =>
    cases rest with
    | nil =>
      cases h
      exact ⟨taken, rfl, hne, by rw [List.append_nil]⟩
    | cons piece rest =>
      obtain ⟨last, hphrases, hne', hsuffix⟩ := (ih hlast).append taken
      refine ⟨last, ?_, hne', hsuffix⟩
      rw [List.getLast?_cons, hphrases]
      rfl

end Pattern

/-! ## What blank phrases stand for -/

open Text

theorem Field.isBlank_of_ofPhrase {cs : List Char} (h : ofPhrase (String.ofList cs) = .dynamic "") :
    ∀ c ∈ cs, isBlank c = true := by
  obtain ⟨-, hid⟩ := ofPhrase_eq_dynamic_iff.1 h
  simpa using trim_eq_empty_iff.1 (Column.trim_eq_empty hid)

theorem Value.isBlank_of_ofPhrase {cs : List Char} (h : ofPhrase (String.ofList cs) = .text "") :
    ∀ c ∈ cs, isBlank c = true := by
  have htrim : trim (String.ofList cs) = "" := by
    rw [ofPhrase] at h
    split at h
    · cases h
    · split at h
      · cases h
      · split at h
        · cases h
        · exact Value.text.inj h
  simpa using trim_eq_empty_iff.1 htrim

namespace Condition

/-- Neither side of the condition is blank. -/
structure Whole (condition : Condition) : Prop where
  field_ne : condition.field ≠ .dynamic ""
  value_ne : condition.value ≠ .text ""

/-- **A condition that is read has two sides.** -/
theorem whole_of_read? {cs : List Char} {condition : Condition} (h : read? cs = some condition) :
    condition.Whole := by
  rw [read?] at h
  split at h
  · next field value hparts =>
    split at h
    · cases h
    · next hsides =>
      rw [Bool.or_eq_true, List.isEmpty_iff, List.isEmpty_iff, trimChars_eq_nil_iff, trimChars_eq_nil_iff,
        not_or] at hsides
      rw [← Option.some.inj h]
      constructor
      · dsimp only
        exact mt Field.isBlank_of_ofPhrase hsides.1
      · dsimp only
        exact mt Value.isBlank_of_ofPhrase hsides.2
  · cases h

end Condition

namespace Command

open Pattern

/-- Up to a word there is nothing but blanks, three of them at least. -/
def Missing (word : String) (cs : List Char) : Prop :=
  ∃ run rest, 3 ≤ run.length ∧ (∀ c ∈ run, isBlank c = true) ∧ cs = run ++ (word.toList ++ rest)

/-- The two forms of an update up to the word that follows the value. -/
def updateUpTo (word : String) (rest : Pattern) : Pattern :=
  .oneOf ["set", "update"] :: .blanks :: .phrase :: .blanks :: .oneOf ["to"] :: .blanks :: .phrase ::
    .blanks :: .oneOf [word] :: rest

variable {cs : List Char} {word : String} {rest : Pattern} {phrases : List (List Char)}

/-- Blanks where a value should stand are taken for the value, and then nothing is left of it. -/
theorem missing_of_blank {before taken behind more : List Char} (hbefore : before ≠ [])
    (hbefore' : ∀ c ∈ before, isBlank c = true) (hne : taken ≠ []) (htaken : ∀ c ∈ taken, isBlank c = true)
    (hbehind : behind ≠ []) (hbehind' : ∀ c ∈ behind, isBlank c = true) :
    Missing word (before ++ (taken ++ (behind ++ (word.toList ++ more)))) := by
  have hblank : ∀ c ∈ before ++ (taken ++ behind), isBlank c = true :=
    List.forall_mem_append.2 ⟨hbefore', List.forall_mem_append.2 ⟨htaken, hbehind'⟩⟩
  refine ⟨before ++ (taken ++ behind), more, ?_, hblank, by simp⟩
  have := List.length_pos_iff.2 hbefore
  have := List.length_pos_iff.2 hne
  have := List.length_pos_iff.2 hbehind
  simp only [List.length_append]
  omega

/-- **The field or the value of an update is blank only if three blanks stand in its place.** -/
theorem of_fits_updateUpTo (h : Fits (updateUpTo word rest) phrases cs) :
    ∃ target value others, phrases = target :: value :: others ∧
      ((∀ c ∈ target, isBlank c = true) → ∃ verb ∈ ["set", "update"], ∃ behind,
        cs = verb.toList ++ behind ∧ Missing "to" behind) ∧
      ((∀ c ∈ value, isBlank c = true) → ∃ front behind,
        cs = front ++ ("to".toList ++ behind) ∧ Missing word behind) := by
  obtain ⟨verb, hverb, _, rfl, h₁⟩ := h.of_oneOf
  obtain ⟨run₁, hne₁, hrun₁, _, rfl, h₂⟩ := h₁.of_blanks
  obtain ⟨target, _, htarget, -, rfl, _, rfl, h₃⟩ := h₂.of_phrase
  obtain ⟨run₂, hne₂, hrun₂, _, rfl, h₄⟩ := h₃.of_blanks
  obtain ⟨_, hto, _, rfl, h₅⟩ := h₄.of_oneOf
  obtain ⟨run₃, hne₃, hrun₃, _, rfl, h₆⟩ := h₅.of_blanks
  obtain ⟨value, others, hvalue, -, rfl, _, rfl, h₇⟩ := h₆.of_phrase
  obtain ⟨run₄, hne₄, hrun₄, _, rfl, h₈⟩ := h₇.of_blanks
  obtain ⟨word₄, hword, more, rfl, -⟩ := h₈.of_oneOf
  obtain rfl := List.mem_singleton.1 hto
  obtain rfl := List.mem_singleton.1 hword
  refine ⟨target, value, _, rfl, fun hblank => ?_, fun hblank => ?_⟩
  · exact ⟨verb, hverb, _, rfl, missing_of_blank hne₁ hrun₁ htarget hblank hne₂ hrun₂⟩
  · refine ⟨verb.toList ++ (run₁ ++ (target ++ run₂)), run₃ ++ (value ++ (run₄ ++ (word₄.toList ++ more))),
      ?_, missing_of_blank hne₃ hrun₃ hvalue hblank hne₄ hrun₄⟩
    simp only [List.append_assoc]

/-- What a sentence is read as if it is understood. -/
theorem ofSentence_cases (cs : List Char) :
    ofSentence cs = unrecognized ∨
      (∃ target value type, Fits updateByType [target, value, type] cs ∧
        ofSentence cs = update (.ofPhrase (String.ofList target)) (.ofPhrase (String.ofList value))
          ⟨.categories, .ofPhrase (String.ofList type)⟩) ∨
      (∃ target value phrase condition, Fits updateWhere [target, value, phrase] cs ∧
        Condition.read? (trimChars phrase) = some condition ∧
        ofSentence cs = update (.ofPhrase (String.ofList target)) (.ofPhrase (String.ofList value)) condition) ∨
      ∃ phrase condition, Condition.read? (trimChars phrase) = some condition ∧
        ofSentence cs = delete condition := by
  rw [ofSentence]
  split
  · next target value type hbyType =>
    exact .inr (.inl ⟨target, value, type, fits_of_find? hbyType, rfl⟩)
  · split
    · next target value phrase hwhere =>
      rw [withCondition]
      split
      · next condition hread =>
        exact .inr (.inr (.inl ⟨target, value, phrase, condition, fits_of_find? hwhere, hread, rfl⟩))
      · exact .inl rfl
    · split
      · next phrase _ =>
        rw [withCondition]
        split
        · next condition hread => exact .inr (.inr (.inr ⟨phrase, condition, hread, rfl⟩))
        · exact .inl rfl
      · exact .inl rfl

/-- The last phrase of a trimmed sentence is not blank. -/
theorem not_blank_of_endsWith (h : Trimmed cs) (hends : EndsWith phrases cs) :
    ∃ taken, phrases.getLast? = some taken ∧ ¬ ∀ c ∈ taken, isBlank c = true := by
  obtain ⟨taken, hphrases, hne, hsuffix⟩ := hends
  refine ⟨taken, hphrases, fun hblank => ?_⟩
  have hlast := List.getLast?_eq_some_getLast hne
  have hsame : cs.getLast? = some (taken.getLast hne) := by
    obtain ⟨front, rfl⟩ := hsuffix
    rw [List.getLast?_append_of_ne_nil front hne, hlast]
  have := h.2 _ hsame
  rw [hblank _ (List.getLast_mem hne)] at this
  cases this

/-- What is blank in a command is missing in the sentence. -/
def WholeIn (cs : List Char) : Command → Prop
  | .update target value condition =>
    condition.Whole ∧
      (target = .dynamic "" → ∃ verb ∈ ["set", "update"], ∃ behind,
        cs = verb.toList ++ behind ∧ Missing "to" behind) ∧
      (value = .text "" → ∃ front behind,
        cs = front ++ ("to".toList ++ behind) ∧ (Missing "for" behind ∨ Missing "where" behind))
  | .delete condition => condition.Whole
  | .unrecognized => True

/-- Both forms of an update. -/
theorem wholeIn_update {target value : List Char} {others : List (List Char)} {condition : Condition}
    (hword : word = "for" ∨ word = "where") (h : Fits (updateUpTo word rest) (target :: value :: others) cs)
    (hwhole : condition.Whole) :
    WholeIn cs (update (.ofPhrase (String.ofList target)) (.ofPhrase (String.ofList value)) condition) := by
  obtain ⟨_, _, _, heq, htarget, hvalue⟩ := of_fits_updateUpTo h
  cases heq
  refine ⟨hwhole, fun hfield => htarget (Field.isBlank_of_ofPhrase hfield), fun htext => ?_⟩
  obtain ⟨front, behind, hcs, hmissing⟩ := hvalue (Value.isBlank_of_ofPhrase htext)
  refine ⟨front, behind, hcs, ?_⟩
  rcases hword with rfl | rfl
  · exact .inl hmissing
  · exact .inr hmissing

/-- **Nothing blank is read of a sentence but the field or the value of an update**, and these only if three
blanks stand in the place of what is missing. -/
theorem parse_wholeIn (text : String) : WholeIn (lowerChars (trimChars text.toList)) (parse text) := by
  have htrimmed : Trimmed (lowerChars (trimChars text.toList)) := trimmed_lowerChars (trimmed_trimChars _)
  rw [parse]
  generalize lowerChars (trimChars text.toList) = cs at htrimmed ⊢
  rcases ofSentence_cases cs with h | ⟨target, value, type, hfits, h⟩ |
    ⟨target, value, phrase, condition, hfits, hread, h⟩ | ⟨phrase, condition, hread, h⟩
  · rw [h]
    trivial
  · rw [h]
    -- The sentence ends with the type.
    obtain ⟨last, hlast, hblank⟩ := not_blank_of_endsWith htrimmed (hfits.endsWith rfl)
    cases hlast
    refine wholeIn_update (.inl rfl) hfits ⟨?_, ?_⟩
    · dsimp only
      exact Field.ne_dynamic_of_mem_fixed (by decide) ""
    · dsimp only
      exact mt Value.isBlank_of_ofPhrase hblank
  · rw [h]
    exact wholeIn_update (.inr rfl) hfits (Condition.whole_of_read? hread)
  · rw [h]
    exact Condition.whole_of_read? hread

/-- A value that is missing is taken for an empty text. -/
theorem parse_missing_value :
    parse "set name to   where type is fire" = update .name (.text "") ⟨.categories, .text "fire"⟩ ∧
      parse "set   to 5 where type is fire" =
        update (.dynamic "") (.ofPhrase "5") ⟨.categories, .text "fire"⟩ := by
  decide +kernel

end Command

end Fieldbook
