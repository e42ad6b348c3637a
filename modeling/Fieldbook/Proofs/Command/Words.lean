import Fieldbook.Command.Sentence
import Mathlib.Data.List.Basic

/-!
# Patterns over words

A text of words with single blanks between them leaves a sentence pattern little choice: what blanks
stand for is one blank, what a token stands for is one word, and a phrase begins and ends with a word. So a
pattern whose pieces are kept apart by blanks can be matched word by word (`fits?`), and
`Pattern.match?_spaced` says that this comes to the same.
-/

namespace Fieldbook

namespace Text

/-- A word: not empty, and without a blank. -/
structure IsWord (word : String) : Prop where
  ne_nil : word.toList ≠ []
  not_blank : ∀ c ∈ word.toList, isBlank c = false

/-- Words with single blanks between them. -/
def unwords (words : List String) : List Char := [' '].intercalate (words.map String.toList)

/-- Words after a word. -/
def gap : List String → List Char
  | [] => []
  | word :: words => ' ' :: unwords (word :: words)

variable {word : String} {words : List String}

@[simp]
theorem unwords_nil : unwords [] = [] := rfl

theorem unwords_cons (word : String) (words : List String) :
    unwords (word :: words) = word.toList ++ gap words := by
  cases words with
  | nil => simp [unwords, gap]
  | cons word' words =>
    rw [gap, unwords, List.map_cons, List.map_cons, List.intercalate_cons_cons, List.append_assoc]
    rfl

theorem ofList_unwords (words : List String) : String.ofList (unwords words) = " ".intercalate words := by
  rw [← String.toList_inj, String.toList_intercalate, String.toList_ofList]
  rfl

/-- A word begins with a character that is no blank. -/
theorem IsWord.exists_cons (h : IsWord word) :
    ∃ c cs, word.toList = c :: cs ∧ isBlank c = false := by
  obtain ⟨c, cs, hcs⟩ := List.exists_cons_of_ne_nil h.ne_nil
  exact ⟨c, cs, hcs, h.not_blank c (hcs ▸ List.mem_cons_self)⟩

/-- A character that is no blank is no line break. -/
theorem ne_newline_of_not_blank {c : Char} (h : isBlank c = false) : c ≠ '\n' := by
  rintro rfl
  cases h

end Text

/-- The piece stands for words: it is not itself a place for blanks. -/
def Piece.isItem : Piece → Bool
  | .oneOf expected => expected.all fun word =>
    !word.toList.isEmpty && word.toList.all (!Text.isBlank ·)
  | .blanks => false
  | .token | .phrase => true

theorem Piece.isWord_of_isItem {expected : List String} (h : (Piece.oneOf expected).isItem = true)
    {word : String} (hword : word ∈ expected) : Text.IsWord word := by
  have hitem := List.all_eq_true.1 h word hword
  simp only [Bool.and_eq_true, Bool.not_eq_true', List.isEmpty_eq_false_iff, List.all_eq_true] at hitem
  exact ⟨hitem.1, hitem.2⟩

namespace Pattern

open Text

variable {α : Type} {next : List Char → Option α} {word : String} {words : List String}

/-- Fails where a text begins that is neither empty nor begins with a blank. -/
def AtGap (next : List Char → Option α) : Prop := ∀ c cs, isBlank c = false → next (c :: cs) = none

/-! ## One piece -/

/-- A word that is to come next is the word that does, whole. -/
theorem afterWord?_bind (h : AtGap next) (hword : IsWord word) {expected : String}
    (hexpected : ∀ c ∈ expected.toList, isBlank c = false) :
    (afterWord? expected.toList (word.toList ++ gap words)).bind next =
      if word = expected then next (gap words) else none := by
  rw [afterWord?]
  by_cases heq : word = expected
  · subst heq
    simp
  rw [if_neg heq]
  split
  · next hpre =>
    rw [List.isPrefixOf_iff_prefix] at hpre
    rw [Option.bind_some]
    -- The two words are not the same, but one of them begins with the other.
    rcases List.prefix_or_prefix_of_prefix hpre (List.prefix_append ..) with ⟨rest, hrest⟩ | ⟨rest, hrest⟩
    · cases rest with
      | nil => exact absurd (String.toList_inj.1 (by simpa using hrest.symm)) heq
      | cons c rest =>
        rw [← hrest, List.append_assoc, List.drop_left]
        exact h c _ (hword.not_blank c (by simp [← hrest]))
    · rw [← hrest, List.prefix_append_right_inj] at hpre
      cases rest with
      | nil => exact absurd (String.toList_inj.1 (by simpa using hrest)) heq
      | cons c rest =>
        have hc := hexpected c (by simp [← hrest])
        cases words with
        | nil => cases List.prefix_nil.1 hpre
        | cons word' words =>
          rw [gap, List.cons_prefix_cons] at hpre
          rw [hpre.1] at hc
          cases hc
  · rfl

/-- A token is a whole word. -/
theorem longestRun_word (h : AtGap next) (hword : IsWord word) :
    longestRun (!isBlank ·) next (word.toList ++ gap words) = next (gap words) := by
  have hgap : longestRun (!isBlank ·) next (gap words) = none := by
    cases words with
    | nil => rfl
    | cons word' words => rw [gap, longestRun]; rfl
  obtain ⟨hne, hword⟩ := hword
  generalize word.toList = cs at hne hword
  induction cs with
  | nil => exact absurd rfl hne
  | cons c cs ih =>
    rw [List.cons_append, longestRun, hword c List.mem_cons_self]
    cases cs with
    | nil => rw [List.nil_append, hgap]; rfl
    | cons d ds =>
      rw [ih (List.cons_ne_nil d ds) fun c hc => hword c (.tail _ hc), List.cons_append,
        h d _ (hword d (.tail _ List.mem_cons_self))]
      cases next (gap words) <;> rfl

/-- Where a word begins there are no blanks. -/
theorem longestRun_unwords (h : ∀ w ∈ words, IsWord w) :
    longestRun isBlank next (unwords words) = none := by
  cases words with
  | nil => rfl
  | cons word words =>
    obtain ⟨c, cs, hcs, hc⟩ := (h word List.mem_cons_self).exists_cons
    rw [unwords_cons, hcs, List.cons_append, longestRun, hc]
    rfl

/-- One blank is all there is between words. -/
theorem longestRun_gap (h : ∀ w ∈ words, IsWord w) :
    longestRun isBlank next (gap words) = if words = [] then none else next (unwords words) := by
  cases words with
  | nil => rfl
  | cons word words =>
    rw [if_neg (List.cons_ne_nil word words), gap, longestRun, longestRun_unwords h]
    rfl

/-- A phrase that does not end with a word goes on with the next one. -/
theorem shortestPhrase_gap (h : AtGap next) (hwords : ∀ w ∈ words, IsWord w) :
    shortestPhrase next (gap words) =
      (shortestPhrase next (unwords words)).map fun (taken, a) => (' ' :: taken, a) := by
  cases words with
  | nil => rfl
  | cons word words =>
    obtain ⟨c, cs, hcs, hc⟩ := (hwords word List.mem_cons_self).exists_cons
    have hnone : next (unwords (word :: words)) = none := by
      rw [unwords_cons, hcs]
      exact h c _ hc
    rw [gap, shortestPhrase, hnone, if_neg (by decide)]

/-- A phrase ends with a word. -/
theorem shortestPhrase_word (h : AtGap next) (hword : IsWord word) (hwords : ∀ w ∈ words, IsWord w) :
    shortestPhrase next (unwords (word :: words)) =
      match next (gap words) with
      | some a => some (word.toList, a)
      | none => (shortestPhrase next (unwords words)).map fun (taken, a) =>
        (word.toList ++ ' ' :: taken, a) := by
  rw [unwords_cons]
  obtain ⟨hne, hword⟩ := hword
  generalize word.toList = cs at hne hword
  induction cs with
  | nil => exact absurd rfl hne
  | cons c cs ih =>
    have hc := ne_newline_of_not_blank (hword c List.mem_cons_self)
    rw [List.cons_append, shortestPhrase, if_neg hc]
    cases cs with
    | nil =>
      rw [List.nil_append, shortestPhrase_gap h hwords]
      cases next (gap words) with
      | some a => rfl
      | none => cases shortestPhrase next (unwords words) <;> rfl
    | cons d ds =>
      rw [ih nofun fun c hc => hword c (.tail _ hc), List.cons_append,
        h d _ (hword d (.tail _ List.mem_cons_self))]
      cases next (gap words) with
      | some a => rfl
      | none => cases shortestPhrase next (unwords words) <;> rfl

/-! ## Pieces kept apart by blanks -/

/-- Pieces behind another one, with blanks before each. -/
def behind : List Piece → Pattern
  | [] => []
  | piece :: rest => .blanks :: piece :: behind rest

/-- Pieces with blanks between them. -/
def spaced : List Piece → Pattern
  | [] => []
  | piece :: rest => piece :: behind rest

/-- Takes at least one word, and as few as possible so that `next` succeeds on what follows. -/
def shortestSpan (next : List String → Option α) : List String → Option (List String × α)
  | [] => none
  | word :: words =>
    match next words with
    | some a => some ([word], a)
    | none => (shortestSpan next words).map fun (taken, a) => (word :: taken, a)

/-- The phrases of a list of words that the pieces fit, one word or phrase for each. -/
def fits? : List Piece → List String → Option (List (List String))
  | [], [] => some []
  | .oneOf expected :: rest, word :: words => if word ∈ expected then fits? rest words else none
  | .token :: rest, _ :: words => fits? rest words
  | .phrase :: rest, words =>
    (shortestSpan (fits? rest) words).map fun (taken, phrases) => taken :: phrases
  | _, _ => none

theorem atGap_behind (pieces : List Piece) : AtGap (match? (behind pieces)) := by
  intro c cs hc
  cases pieces with
  | nil => rfl
  | cons piece rest => rw [behind, match?, longestRun, hc]; rfl

theorem ne_nil_of_shortestSpan {next : List String → Option α} {taken : List String} {a : α}
    (h : shortestSpan next words = some (taken, a)) : taken ≠ [] := by
  cases words with
  | nil => cases h
  | cons word words =>
    rw [shortestSpan] at h
    split at h
    · cases h
      nofun
    · obtain ⟨⟨taken', a'⟩, -, heq⟩ := Option.map_eq_some_iff.1 h
      cases heq
      nofun

/-- A phrase of a text is a span of its words. -/
theorem shortestPhrase_unwords {next : List Char → Option (List (List Char))}
    {span : List String → Option (List (List String))} (h : AtGap next)
    (hwords : ∀ w ∈ words, IsWord w)
    (hspan : ∀ ws : List String, (∀ w ∈ ws, IsWord w) →
      next (gap ws) = (span ws).map (List.map unwords)) :
    shortestPhrase next (unwords words) =
      (shortestSpan span words).map fun (taken, phrases) => (unwords taken, phrases.map unwords) := by
  induction words with
  | nil => rfl
  | cons word words ih =>
    have hrest : ∀ w ∈ words, IsWord w := fun w hw => hwords w (.tail _ hw)
    rw [shortestPhrase_word h (hwords word (.head _)) hrest, hspan words hrest, ih hrest, shortestSpan]
    cases span words with
    | some phrases => simp [unwords_cons, gap]
    | none =>
      cases htaken : shortestSpan span words with
      | none => rfl
      | some p =>
        obtain ⟨taken, phrases⟩ := p
        obtain ⟨word', taken, rfl⟩ := List.exists_cons_of_ne_nil (ne_nil_of_shortestSpan htaken)
        simp [unwords_cons word (word' :: taken), gap]

/-- One of the expected words comes next, or none of them does. -/
theorem findSome?_expected {expected : List String} {find : String → Option α} {x : Option α}
    (h : ∀ e ∈ expected, find e = if word = e then x else none) :
    expected.findSome? find = if word ∈ expected then x else none := by
  induction expected with
  | nil => rfl
  | cons e expected ih =>
    rw [List.findSome?_cons, h e (.head _), ih fun e he => h e (.tail _ he)]
    by_cases he : word = e
    · subst he
      cases x <;> simp
    · simp [he]

/-- What pieces match behind another one and at the front of a text. -/
theorem match?_behind {pieces : List Piece} (hpieces : ∀ piece ∈ pieces, piece.isItem = true)
    (hwords : ∀ w ∈ words, IsWord w) :
    match? (behind pieces) (gap words) = (fits? pieces words).map (List.map unwords) ∧
      match? (spaced pieces) (unwords words) = (fits? pieces words).map (List.map unwords) := by
  induction pieces generalizing words with
  | nil =>
    cases words with
    | nil => exact ⟨rfl, rfl⟩
    | cons word words =>
      obtain ⟨c, cs, hcs, -⟩ := (hwords word (.head _)).exists_cons
      rw [unwords_cons, hcs]
      exact ⟨rfl, rfl⟩
  | cons piece rest ih =>
    have hrest : ∀ p ∈ rest, p.isItem = true := fun p hp => hpieces p (.tail _ hp)
    have hspaced : match? (spaced (piece :: rest)) (unwords words) =
        (fits? (piece :: rest) words).map (List.map unwords) := by
      rw [spaced]
      cases piece with
      | blanks => cases hpieces _ (.head _)
      | phrase =>
        rw [match?, shortestPhrase_unwords (atGap_behind rest) hwords fun ws hws => (ih hrest hws).1,
          fits?]
        cases shortestSpan (fits? rest) words <;> rfl
      | token =>
        cases words with
        | nil => rfl
        | cons word words =>
          rw [match?, unwords_cons, longestRun_word (atGap_behind rest) (hwords word (.head _)), fits?]
          exact (ih hrest fun w hw => hwords w (.tail _ hw)).1
      | oneOf expected =>
        have hexpected : ∀ e ∈ expected, IsWord e :=
          fun e he => Piece.isWord_of_isItem (hpieces _ (.head _)) he
        rw [match?]
        cases words with
        | nil =>
          rw [List.findSome?_eq_none_iff.2 fun e he => ?_]
          · rfl
          · obtain ⟨c, cs, hcs, -⟩ := (hexpected e he).exists_cons
            rw [hcs]
            rfl
        | cons word words =>
          have hafter : ∀ e ∈ expected, (afterWord? e.toList (unwords (word :: words))).bind
              (match? (behind rest)) = if word = e then match? (behind rest) (gap words) else none :=
            fun e he => unwords_cons word words ▸
              afterWord?_bind (atGap_behind rest) (hwords word (.head _)) (hexpected e he).not_blank
          rw [findSome?_expected hafter, fits?,
            (ih hrest fun w hw => hwords w (.tail _ hw)).1]
          split <;> rfl
    -- Behind another piece one blank is all the difference.
    refine ⟨?_, hspaced⟩
    rw [behind, match?, longestRun_gap hwords]
    split
    · next hnil =>
      subst hnil
      cases piece <;> rfl
    · exact hspaced

/-- **A pattern with blanks between its pieces is matched word by word.** -/
theorem match?_spaced {pieces : List Piece} (hpieces : ∀ piece ∈ pieces, piece.isItem = true)
    (hwords : ∀ w ∈ words, IsWord w) :
    match? (spaced pieces) (unwords words) = (fits? pieces words).map (List.map unwords) :=
  (match?_behind hpieces hwords).2

end Pattern

end Fieldbook
