import Fieldbook.Proofs.Command.Conditions
import Mathlib

/-!
# The grammar of sentences

For a sentence in lower case of words with single blanks between them, `Command.ofWords?` says what it
asks for without patterns: it looks for the first `to`, the first `for all … of type`, the first `where`,
and for the words `is` that split a condition. `Command.parse_eq_ofWords` says that this is what
`Command.parse` makes of it.

A pattern may go back on the end of an earlier phrase to make a later piece fit. It never has to: what
fits behind a later `to` fits behind an earlier one, with a longer phrase (`shortestSpan_skip`).
-/

namespace Fieldbook

/-! ## Looking for words -/

/-- The least index from `start` on that passes the test. -/
def leastFrom (start : Nat) (words : List String) (test : Nat → Bool) : Option Nat :=
  (List.range' start (words.length - start)).find? test

/-! ## Sentences -/

namespace Command

/-- The words `for all … of type` and one more stand here. -/
def isByType (words : List String) (j : Nat) : Bool :=
  words[j]? = some "for" && words[j + 1]? = some "all" && words[j + 3]? = some "of" &&
    words[j + 4]? = some "type" && j + 5 < words.length

/-- The word `where` and one more stand here. -/
def isWhere (words : List String) (j : Nat) : Bool :=
  words[j]? = some "where" && j + 1 < words.length

/-- What a sentence asks for that begins with `set` or `update`. -/
def updateOfWords (words : List String) : Command :=
  match leastFrom 2 words fun i => words[i]? = some "to" with
  | none => unrecognized
  | some i =>
    let target := Field.ofPhrase (" ".intercalate (wordsBetween words 1 i))
    match leastFrom (i + 2) words (isByType words) with
    | some j =>
      update target (.ofPhrase (" ".intercalate (wordsBetween words (i + 1) j)))
        ⟨.categories, .ofPhrase (" ".intercalate (wordsBetween words (j + 5) words.length))⟩
    | none =>
      match leastFrom (i + 2) words (isWhere words) with
      | some j =>
        match Condition.ofWords? (wordsBetween words (j + 1) words.length) with
        | some condition =>
          update target (.ofPhrase (" ".intercalate (wordsBetween words (i + 1) j))) condition
        | none => unrecognized
      | none => unrecognized

/-- The condition of a sentence that begins with `delete`, by the words behind that. -/
def deleteCondition? : List String → Option (List String)
  | "rows" :: "where" :: condition | "where" :: condition =>
    if condition = [] then none else some condition
  | _ => none

/-- What a sentence asks for. -/
def ofWords : List String → Command
  | [] => unrecognized
  | first :: rest =>
    if first = "set" ∨ first = "update" then updateOfWords (first :: rest)
    else if first = "delete" then
      match (deleteCondition? rest).bind Condition.ofWords? with
      | some condition => delete condition
      | none => unrecognized
    else unrecognized

end Command

/-! ## First occurrences -/

section Least

variable {start k : Nat} {words : List String} {test : Nat → Bool}

theorem leastFrom_eq_some_iff :
    leastFrom start words test = some k ↔
      start ≤ k ∧ k < words.length ∧ test k = true ∧ ∀ m, start ≤ m → m < k → test m = false := by
  rw [leastFrom, List.find?_range'_eq_some]
  simp only [List.mem_range'_1, Bool.not_eq_true']
  constructor
  · rintro ⟨htest, hmem, hbefore⟩
    exact ⟨hmem.1, by omega, htest, hbefore⟩
  · rintro ⟨hstart, hlength, htest, hbefore⟩
    exact ⟨htest, by omega, hbefore⟩

theorem leastFrom_eq_none_iff :
    leastFrom start words test = none ↔ ∀ m, start ≤ m → m < words.length → test m = false := by
  rw [leastFrom, List.find?_eq_none]
  simp only [List.mem_range'_1, Bool.not_eq_true]
  constructor
  · intro h m hstart hlength
    exact h m (by omega)
  · intro h m hmem
    exact h m hmem.1 (by omega)

end Least

namespace Pattern

variable {α : Type} {next : List String → Option α} {a k : Nat} {words : List String} {x : α}

theorem wordsBetween_succ {a k : Nat} {words : List String} (ha : a < k) (hk : a < words.length) :
    wordsBetween words a k = words[a] :: wordsBetween words (a + 1) k := by
  rw [wordsBetween, wordsBetween, List.drop_eq_getElem_cons (by rw [List.length_take]; omega),
    List.getElem_take]

theorem wordsBetween_self (words : List String) (k : Nat) : wordsBetween words k k = [] :=
  List.drop_of_length_le (List.length_take_le k words)

/-- A phrase ends where what follows fits for the first time. -/
theorem shortestSpan_eq_some (ha : a < k) (hk : k ≤ words.length) (hx : next (words.drop k) = some x)
    (hbefore : ∀ m, a < m → m < k → next (words.drop m) = none) :
    shortestSpan next (words.drop a) = some (wordsBetween words a k, x) := by
  induction hd : k - a generalizing a with
  | zero => omega
  | succ d ih =>
    rw [List.drop_eq_getElem_cons (by omega), shortestSpan, wordsBetween_succ ha (by omega)]
    by_cases hnext : a + 1 = k
    · rw [hnext, hx, wordsBetween_self]
    · rw [hbefore (a + 1) (by omega) (by omega),
        ih (by omega) (fun m hm hmk => hbefore m (by omega) hmk) (by omega)]
      rfl

/-- There is no phrase if what follows fits nowhere. -/
theorem shortestSpan_eq_none (h : ∀ m, a < m → m ≤ words.length → next (words.drop m) = none) :
    shortestSpan next (words.drop a) = none := by
  induction hd : words.length - a generalizing a with
  | zero => rw [List.drop_of_length_le (by omega)]; rfl
  | succ d ih =>
    rw [List.drop_eq_getElem_cons (by omega), shortestSpan, h (a + 1) (by omega) (by omega),
      ih (fun m hm hml => h m (by omega) hml) (by omega)]
    rfl

/-- **What fits behind a later end of a phrase fits behind an earlier one**, where the next phrase is
longer. -/
theorem shortestSpan_skip (n : Nat) (h : shortestSpan next words = none) :
    shortestSpan next (words.drop n) = none := by
  induction n generalizing words with
  | zero => exact h
  | succ n ih =>
    cases words with
    | nil => exact h
    | cons word words =>
      rw [shortestSpan] at h
      split at h
      · cases h
      · exact ih (Option.map_eq_none_iff.1 h)

/-- The rest of the words as one phrase. -/
theorem fits?_phrase (words : List String) :
    fits? [.phrase] words = if words = [] then none else some [words] := by
  have hspan : shortestSpan (fits? []) words = if words = [] then none else some (words, []) := by
    induction words with
    | nil => rfl
    | cons word words ih =>
      rw [shortestSpan]
      cases words with
      | nil => rfl
      | cons word' words =>
        have hnone : fits? [] (word' :: words) = none := rfl
        rw [hnone, ih]
        rfl
  rw [fits?, hspan]
  split <;> rfl

/-- A certain word. -/
theorem fits?_word_drop (words : List String) (word : String) (rest : List Piece) (m : Nat) :
    fits? (.oneOf [word] :: rest) (words.drop m) =
      if words[m]? = some word then fits? rest (words.drop (m + 1)) else none := by
  by_cases hm : m < words.length
  · rw [List.drop_eq_getElem_cons hm, fits?, List.getElem?_eq_getElem hm]
    simp
  · rw [List.drop_of_length_le (by omega), List.getElem?_eq_none (by omega)]
    rfl

/-- Any word. -/
theorem fits?_token_drop (words : List String) (rest : List Piece) (m : Nat) :
    fits? (.token :: rest) (words.drop m) =
      if m < words.length then fits? rest (words.drop (m + 1)) else none := by
  split
  · next hm => rw [List.drop_eq_getElem_cons hm, fits?]
  · next hm => rw [List.drop_of_length_le (by omega)]; rfl

/-- A phrase, and behind it something that fits in the places that pass a test. -/
theorem fits?_phrase_drop {pieces : List Piece} {test : Nat → Bool} {f : Nat → List (List String)}
    (htest : ∀ j, test j = true → j < words.length)
    (h : ∀ j, fits? pieces (words.drop j) = if test j then some (f j) else none) (a : Nat) :
    fits? (.phrase :: pieces) (words.drop a) =
      (leastFrom (a + 1) words test).map fun j => wordsBetween words a j :: f j := by
  rw [fits?]
  cases hleast : leastFrom (a + 1) words test with
  | some j =>
    obtain ⟨haj, hj, htest, hbefore⟩ := leastFrom_eq_some_iff.1 hleast
    rw [shortestSpan_eq_some haj hj.le ((h j).trans (if_pos htest)) fun m ham hmj =>
      (h m).trans (if_neg (by rw [hbefore m ham hmj]; exact Bool.false_ne_true))]
    rfl
  | none =>
    rw [shortestSpan_eq_none fun m ham hm => (h m).trans (if_neg fun hpasses => ?_)]
    · rfl
    · rw [leastFrom_eq_none_iff.1 hleast m ham (htest m hpasses)] at hpasses
      cases hpasses

/-- A phrase, a word, and another phrase with something behind it: the first phrase ends where the word
stands for the first time. -/
theorem fits?_phrase_word (words : List String) (word : String) (pieces : List Piece) (a : Nat) :
    fits? (.phrase :: .oneOf [word] :: .phrase :: pieces) (words.drop a) =
      (leastFrom (a + 1) words fun i => words[i]? = some word).bind fun i =>
        (fits? (.phrase :: pieces) (words.drop (i + 1))).map (wordsBetween words a i :: ·) := by
  have hnext := fits?_word_drop words word (.phrase :: pieces)
  rw [fits?]
  cases hleast : leastFrom (a + 1) words fun i => words[i]? = some word with
  | none =>
    rw [shortestSpan_eq_none fun m ham _ => (hnext m).trans (if_neg fun hword => ?_)]
    · rfl
    · have hm := (List.getElem?_eq_some_iff.1 hword).1
      have := leastFrom_eq_none_iff.1 hleast m ham hm
      simp [hword] at this
  | some i =>
    obtain ⟨hai, hi, hword, hbefore⟩ := leastFrom_eq_some_iff.1 hleast
    rw [Option.bind_some]
    cases hfits : fits? (.phrase :: pieces) (words.drop (i + 1)) with
    | some phrases =>
      rw [shortestSpan_eq_some hai hi.le (x := phrases)]
      · rfl
      · rw [hnext, if_pos (of_decide_eq_true hword), hfits]
      · intro m ham hmi
        rw [hnext, if_neg (of_decide_eq_false (hbefore m ham hmi))]
    | none =>
      rw [shortestSpan_eq_none fun m ham _ => ?_]
      · rfl
      · rw [hnext]
        split
        · next hword' =>
          -- The word stands here again, but no further behind than something would fit.
          have him : i ≤ m := by
            by_contra hlt
            exact of_decide_eq_false (hbefore m ham (by omega)) hword'
          rw [fits?, Option.map_eq_none_iff] at hfits ⊢
          have hskip := shortestSpan_skip (m - i) hfits
          rwa [List.drop_drop, show i + 1 + (m - i) = m + 1 by omega] at hskip
        · rfl

end Pattern

/-! ## Sentences word by word -/

namespace Command

open Pattern

variable {words : List String} {first : String}

theorem fits?_byType (words : List String) (j : Nat) :
    fits? [.oneOf ["for"], .oneOf ["all"], .token, .oneOf ["of"], .oneOf ["type"], .phrase]
        (words.drop j) =
      if isByType words j then some [wordsBetween words (j + 5) words.length] else none := by
  simp only [fits?_word_drop, fits?_token_drop, fits?_phrase, isByType, wordsBetween, List.take_length,
    List.drop_eq_nil_iff]
  grind

theorem fits?_where (words : List String) (j : Nat) :
    fits? [.oneOf ["where"], .phrase] (words.drop j) =
      if isWhere words j then some [wordsBetween words (j + 1) words.length] else none := by
  simp only [fits?_word_drop, fits?_phrase, isWhere, wordsBetween, List.take_length, List.drop_eq_nil_iff]
  grind

/-- Everything in these patterns but the blanks stands for words. -/
theorem find?_spaced {pieces : List Piece} (hpieces : pieces.all Piece.isItem = true)
    (hwords : ∀ w ∈ words, Text.IsWord w) :
    (spaced pieces).find? (Text.unwords words) = (fits? pieces words).map (List.map Text.unwords) :=
  (find?_eq_match? _ _).trans (match?_spaced (List.all_eq_true.1 hpieces) hwords)

/-- A condition that was found is read word by word. -/
theorem withCondition_unwords (h : ∀ w ∈ words, Text.IsWord w) (command : Condition → Command) :
    withCondition (Text.unwords words) command =
      match Condition.ofWords? words with
      | some condition => command condition
      | none => unrecognized := by
  have hread : Condition.read? (Text.trimChars (Text.unwords words)) = Condition.ofWords? words := by
    rw [Text.trimChars_eq_self (Text.trimmed_unwords h), Condition.read?_unwords h]
  exact congrArg (fun found => match found with
    | some condition => command condition
    | none => unrecognized) hread

theorem isWord_of_mem_wordsBetween {start stop : Nat} (h : ∀ w ∈ words, Text.IsWord w) :
    ∀ w ∈ wordsBetween words start stop, Text.IsWord w :=
  fun w hw => h w (List.mem_of_mem_take (List.mem_of_mem_drop hw))

/-- A form that begins with `set <field> to <value>`, by the first `to` and the first place behind it
where the rest of the form fits. -/
theorem find?_update {pieces : List Piece} {test : Nat → Bool} {f : Nat → List (List String)}
    (hpieces : pieces.all Piece.isItem = true) (hwords : ∀ w ∈ first :: words, Text.IsWord w)
    (htest : ∀ j, test j = true → j < (first :: words).length)
    (h : ∀ j, fits? pieces ((first :: words).drop j) = if test j then some (f j) else none) :
    (spaced (.oneOf ["set", "update"] :: .phrase :: .oneOf ["to"] :: .phrase :: pieces)).find?
        (Text.unwords (first :: words)) =
      if first = "set" ∨ first = "update" then
        (leastFrom 2 (first :: words) fun i => (first :: words)[i]? = some "to").bind fun i =>
          (leastFrom (i + 2) (first :: words) test).map fun j =>
            Text.unwords (wordsBetween (first :: words) 1 i) ::
              Text.unwords (wordsBetween (first :: words) (i + 1) j) :: (f j).map Text.unwords
      else none := by
  have hitems : (Piece.oneOf ["set", "update"] :: .phrase :: .oneOf ["to"] :: .phrase :: pieces).all
      Piece.isItem = true := by
    simp only [List.all_cons, hpieces]
    rfl
  have hfits := fits?_phrase_word (first :: words) "to" pieces 1
  simp only [fits?_phrase_drop htest h, List.drop_one, List.tail_cons] at hfits
  rw [find?_spaced hitems hwords, fits?, hfits]
  by_cases hset : first = "set" ∨ first = "update"
  · rw [if_pos hset, if_pos (by simpa using hset), Option.map_bind]
    congr 1
    funext i
    simp [Function.comp_def]
  · rw [if_neg hset, if_neg (by simpa using hset)]
    rfl

theorem updateByType_eq : updateByType = spaced [.oneOf ["set", "update"], .phrase, .oneOf ["to"],
    .phrase, .oneOf ["for"], .oneOf ["all"], .token, .oneOf ["of"], .oneOf ["type"], .phrase] := rfl

theorem updateWhere_eq : updateWhere = spaced [.oneOf ["set", "update"], .phrase, .oneOf ["to"],
    .phrase, .oneOf ["where"], .phrase] := rfl

theorem lt_of_isByType {j : Nat} (h : isByType words j = true) : j < words.length := by
  have hmore := of_decide_eq_true (Bool.and_eq_true_iff.1 h).2
  omega

theorem lt_of_isWhere {j : Nat} (h : isWhere words j = true) : j < words.length := by
  have hmore := of_decide_eq_true (Bool.and_eq_true_iff.1 h).2
  omega

theorem fits?_where_cons (word : String) (words : List String) :
    fits? [.oneOf ["where"], .phrase] (word :: words) =
      if word = "where" ∧ words ≠ [] then some [words] else none := by
  rw [fits?, fits?_phrase]
  grind

/-- The forms that begin with `delete`. -/
theorem find?_delete (h : ∀ w ∈ first :: words, Text.IsWord w) :
    (deleteRowsWhere.find? (Text.unwords (first :: words))).or
        (deleteWhere.find? (Text.unwords (first :: words))) =
      if first = "delete" then (deleteCondition? words).map fun condition => [Text.unwords condition]
      else none := by
  have hrows : deleteRowsWhere = spaced [.oneOf ["delete"], .oneOf ["rows"], .oneOf ["where"], .phrase] :=
    rfl
  have hplain : deleteWhere = spaced [.oneOf ["delete"], .oneOf ["where"], .phrase] := rfl
  rw [hrows, hplain, find?_spaced rfl h, find?_spaced rfl h, fits?, fits?]
  simp only [List.mem_singleton]
  by_cases hfirst : first = "delete"
  · simp only [if_pos hfirst]
    rw [deleteCondition?.eq_def]
    split
    · next condition =>
      rw [fits?, fits?_where_cons, fits?_where_cons]
      by_cases hcondition : condition = [] <;> simp [hcondition]
    · next condition =>
      rw [fits?, fits?_where_cons]
      by_cases hcondition : condition = [] <;> simp [hcondition]
    · next hrows hplain =>
      cases words with
      | nil => rfl
      | cons word words =>
        have hword : word ≠ "where" := fun heq => hplain words (heq ▸ rfl)
        have hsecond : word = "rows" → fits? [.oneOf ["where"], .phrase] words = none := by
          rintro rfl
          cases words with
          | nil => rfl
          | cons word' words =>
            rw [fits?_where_cons, if_neg]
            rintro ⟨rfl, -⟩
            exact hrows words rfl
        have hnone : fits? [.oneOf ["rows"], .oneOf ["where"], .phrase] (word :: words) = none := by
          rw [fits?]
          split
          · next hrow => exact hsecond (List.mem_singleton.1 hrow)
          · rfl
        rw [hnone, fits?_where_cons, if_neg fun h => hword h.1]
        rfl
  · simp [if_neg hfirst]

/-- What is made of a sentence that begins with `set` or `update`. -/
theorem ofSentence_update (h : ∀ w ∈ first :: words, Text.IsWord w)
    (hfirst : first = "set" ∨ first = "update") :
    ofSentence (Text.unwords (first :: words)) = updateOfWords (first :: words) := by
  have hbyType := find?_update (by rfl) h (fun j => lt_of_isByType) (fits?_byType (first :: words))
  have hwhere := find?_update (by rfl) h (fun j => lt_of_isWhere) (fits?_where (first :: words))
  have hdelete : first ≠ "delete" := by
    rintro rfl
    rcases hfirst with hfirst | hfirst <;> exact absurd hfirst (by decide)
  rw [if_pos hfirst] at hbyType hwhere
  rw [ofSentence, updateOfWords, updateByType_eq, updateWhere_eq, hbyType, hwhere, find?_delete h,
    if_neg hdelete]
  cases leastFrom 2 (first :: words) fun i => (first :: words)[i]? = some "to" with
  | none => rfl
  | some i =>
    simp only [Option.bind_some]
    cases leastFrom (i + 2) (first :: words) (isByType (first :: words)) with
    | some j => simp [Text.ofList_unwords]
    | none =>
      cases leastFrom (i + 2) (first :: words) (isWhere (first :: words)) with
      | some j =>
        simp [Text.ofList_unwords, withCondition_unwords (isWord_of_mem_wordsBetween h)]
      | none => rfl

theorem isWord_of_deleteCondition? {condition : List String} (h : ∀ w ∈ words, Text.IsWord w)
    (hcondition : deleteCondition? words = some condition) : ∀ w ∈ condition, Text.IsWord w := by
  rw [deleteCondition?.eq_def] at hcondition
  split at hcondition
  · split at hcondition <;> cases hcondition
    exact fun w hw => h w (.tail _ (.tail _ hw))
  · split at hcondition <;> cases hcondition
    exact fun w hw => h w (.tail _ hw)
  · cases hcondition

/-- What is made of a sentence that does not begin with `set` or `update`. -/
theorem ofSentence_other (h : ∀ w ∈ first :: words, Text.IsWord w)
    (hupdate : ¬ (first = "set" ∨ first = "update")) :
    ofSentence (Text.unwords (first :: words)) = ofWords (first :: words) := by
  have hbyType := find?_update (by rfl) h (fun j => lt_of_isByType) (fits?_byType (first :: words))
  have hwhere := find?_update (by rfl) h (fun j => lt_of_isWhere) (fits?_where (first :: words))
  rw [if_neg hupdate] at hbyType hwhere
  rw [ofSentence, updateByType_eq, updateWhere_eq, hbyType, hwhere, find?_delete h, ofWords,
    if_neg hupdate]
  split_ifs
  · cases hcondition : deleteCondition? words with
    | none => rfl
    | some condition =>
      have hwords := isWord_of_deleteCondition? (fun w hw => h w (.tail _ hw)) hcondition
      exact withCondition_unwords hwords delete
  · rfl

theorem parse_unwords (h : ∀ word ∈ words, Text.IsWord word)
    (hlower : Text.lowerChars (Text.unwords words) = Text.unwords words) :
    parse (" ".intercalate words) = ofWords words := by
  rw [parse, ← Text.ofList_unwords, String.toList_ofList,
    Text.trimChars_eq_self (Text.trimmed_unwords h), hlower]
  cases words with
  | nil => rfl
  | cons first words =>
    by_cases hfirst : first = "set" ∨ first = "update"
    · rw [ofSentence_update h hfirst, ofWords, if_pos hfirst]
    · exact ofSentence_other h hfirst

/-- **A sentence of words with single blanks between them is read word by word:** a sentence in lower
case asks for what its first `to`, the first `for all … of type` or else `where` behind that, and the
words `is` of its condition say. -/
theorem parse_eq_ofWords (words : List String)
    (hwords : ∀ word ∈ words, word ≠ "" ∧ ∀ c ∈ word.toList, Text.isBlank c = false)
    (hlower : Text.lower (" ".intercalate words) = " ".intercalate words) :
    parse (" ".intercalate words) = ofWords words := by
  have h : ∀ word ∈ words, Text.IsWord word := fun word hword =>
    ⟨fun hnil => (hwords word hword).1 (String.toList_inj.1 hnil), (hwords word hword).2⟩
  rw [← Text.ofList_unwords, Text.lower, String.ofList_inj, String.toList_ofList] at hlower
  exact parse_unwords h hlower

/-- The value has a `to` and the value of the condition an `is` of its own. -/
theorem parse_eq_ofWords_twice :
    (∀ word ∈ ["set", "name", "to", "go", "to", "where", "type", "is", "is", "fire"],
      word ≠ "" ∧ ∀ c ∈ word.toList, Text.isBlank c = false) ∧
    Text.lower "set name to go to where type is is fire" = "set name to go to where type is is fire" ∧
    parse "set name to go to where type is is fire" =
      update .name (.text "go to") ⟨.categories, .text "is fire"⟩ := by
  have hwords : ∀ word ∈ ["set", "name", "to", "go", "to", "where", "type", "is", "is", "fire"],
      word ≠ "" ∧ ∀ c ∈ word.toList, Text.isBlank c = false := by
    have hall : (["set", "name", "to", "go", "to", "where", "type", "is", "is", "fire"].all fun word =>
        word != "" && word.toList.all fun c => !Text.isBlank c) = true := by decide
    simpa only [List.all_eq_true, Bool.and_eq_true, bne_iff_ne, Bool.not_eq_true'] using hall
  have hlower : Text.lower "set name to go to where type is is fire" =
      "set name to go to where type is is fire" := by cbv
  refine ⟨hwords, hlower, ?_⟩
  refine (parse_eq_ofWords ["set", "name", "to", "go", "to", "where", "type", "is", "is", "fire"] hwords
    hlower).trans ?_
  cbv

end Command

end Fieldbook
