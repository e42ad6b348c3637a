import Fieldbook.Command.Pattern

/-!
# Cuts of a text

The preferred cut of a text, found without trying cuts. Piece by piece, from the last to the first, it is
written down what can be made of every end of the text; what a piece makes of an end follows from one
character and from what is written already. That takes one walk through the text for each piece, however
many ways there are to cut it.

`Pattern.find?` answers the phrases of the cut; they are those that `Pattern.match?` asks for
(`find?_eq_match?`).
-/

namespace Fieldbook.Pattern

variable {α : Type}

/-! ## Tables over the ends of a text -/

/-- The values of a function on a text and on all its ends, the empty one last. -/
def onEnds {β : Type} (f : List Char → β) : List Char → List β
  | [] => [f []]
  | c :: cs => f (c :: cs) :: onEnds f cs

/-- What a piece finds on every end of a text. What it finds on `c :: cs` follows from `c`, from what the
later pieces find on `cs`, and from what the piece itself finds on `cs`; on the empty end it finds
nothing. -/
def scan {β : Type} (step : Char → Option α → Option β → Option β) (cs : List Char)
    (later : List (Option α)) : List (Option β) :=
  (List.zipWith step cs later.tail).foldr (fun find found => find found.head?.join :: found) [none]

/-- A fixed character, then what comes later. -/
def stepLetter (a c : Char) (later _ : Option α) : Option α := if c = a then later else none

/-- One more character of a run, if it can go on, and else what comes later. -/
def stepRun (test : Char → Bool) (c : Char) (later found : Option α) : Option α :=
  if test c then found.or later else none

/-- The end of a phrase, if what comes later fits, and else one more character of it. -/
def stepPhrase (c : Char) (later : Option α) (found : Option (List Char × α)) :
    Option (List Char × α) :=
  if c = '\n' then none
  else
    match later with
    | some a => some ([c], a)
    | none => found.map fun (taken, a) => (c :: taken, a)

/-- What a word and the later pieces find on every end of a text. -/
def wordCuts (word cs : List Char) (later : List (Option α)) : List (Option α) :=
  word.foldr (fun a later => scan (stepLetter a) cs later) later

/-- What a piece finds on every end of a text, given what the later pieces find there. -/
def pieceCuts (cs : List Char) (later : List (Option (List (List Char)))) :
    Piece → List (Option (List (List Char)))
  | .oneOf words =>
    words.foldr (fun word found => List.zipWith Option.or (wordCuts word.toList cs later) found)
      (cs.map (fun _ => none) ++ [none])
  | .blanks => scan (stepRun Text.isBlank) cs later
  | .token => scan (stepRun (!Text.isBlank ·)) cs later
  | .phrase => (scan stepPhrase cs later).map fun found =>
    found.map fun (taken, phrases) => taken :: phrases

/-- The phrases of every end of a text. -/
def cuts (pattern : Pattern) (cs : List Char) : List (Option (List (List Char))) :=
  pattern.foldr (fun piece later => pieceCuts cs later piece) (cs.map (fun _ => none) ++ [some []])

/-- The phrases of a text that the pattern fits. -/
def find? (pattern : Pattern) (cs : List Char) : Option (List (List Char)) :=
  (pattern.cuts cs).head?.join

/-! ## What the tables hold -/

/-- The first entry of a table is for the whole text. -/
theorem head?_onEnds {β : Type} (f : List Char → β) (cs : List Char) :
    (onEnds f cs).head? = some (f cs) := by
  cases cs <;> rfl

theorem map_onEnds {β γ : Type} (g : β → γ) (f : List Char → β) (cs : List Char) :
    (onEnds f cs).map g = onEnds (fun cs => g (f cs)) cs := by
  induction cs with
  | nil => rfl
  | cons c cs ih => simp [onEnds, ih]

/-- Two tables are combined entry by entry. -/
theorem zipWith_onEnds {β γ δ : Type} (h : β → γ → δ) (f : List Char → β) (g : List Char → γ)
    (cs : List Char) :
    List.zipWith h (onEnds f cs) (onEnds g cs) = onEnds (fun cs => h (f cs) (g cs)) cs := by
  induction cs with
  | nil => rfl
  | cons c cs ih => simp [onEnds, ih]

/-- The table that a row of pieces ends with: a value for the empty end and nothing for the others. -/
theorem map_none_append {β : Type} (b : Option β) (f : List Char → Option β) (hnil : f [] = b)
    (hcons : ∀ c cs, f (c :: cs) = none) (cs : List Char) :
    cs.map (fun _ => none) ++ [b] = onEnds f cs := by
  induction cs with
  | nil => rw [onEnds, hnil]; rfl
  | cons c cs ih => rw [List.map_cons, List.cons_append, ih, onEnds, hcons]

/-- The table of a function that goes by the steps of `scan`. -/
theorem scan_onEnds {β : Type} {step : Char → Option α → Option β → Option β}
    {later : List Char → Option α} {f : List Char → Option β} (hnil : f [] = none)
    (hcons : ∀ c cs, f (c :: cs) = step c (later cs) (f cs)) (cs : List Char) :
    scan step cs (onEnds later cs) = onEnds f cs := by
  induction cs with
  | nil => simp [scan, onEnds, hnil]
  | cons c cs ih =>
    have htable : onEnds later cs = later cs :: (onEnds later cs).tail := by
      cases cs <;> rfl
    rw [scan] at ih ⊢
    rw [onEnds, List.tail_cons, htable, List.zipWith_cons_cons, List.foldr_cons, ih, head?_onEnds,
      onEnds, hcons]
    rfl

/-- The table of a word is made letter by letter, the last one first. -/
theorem wordCuts_onEnds (word : List Char) (later : List Char → Option α) (cs : List Char) :
    wordCuts word cs (onEnds later cs) =
      onEnds (fun cs => (afterWord? word cs).bind later) cs := by
  induction word with
  | nil => simp [wordCuts, afterWord?]
  | cons a word ih =>
    rw [wordCuts] at ih ⊢
    rw [List.foldr_cons, ih]
    refine scan_onEnds (by simp [afterWord?]) (fun c cs => ?_) cs
    by_cases h : c = a
    · subst h
      simp [afterWord?, stepLetter]
    · simp [afterWord?, stepLetter, h, Ne.symm h]

/-- A run on one end goes on as the run on the next. -/
theorem scan_stepRun (test : Char → Bool) (later : List Char → Option α) (cs : List Char) :
    scan (stepRun test) cs (onEnds later cs) = onEnds (longestRun test later) cs := by
  refine scan_onEnds rfl (fun c cs => ?_) cs
  rw [longestRun, stepRun]
  cases longestRun test later cs <;> rfl

/-- A phrase on one end is the phrase on the next with a character more, unless it can end. -/
theorem scan_stepPhrase (later : List Char → Option α) (cs : List Char) :
    scan stepPhrase cs (onEnds later cs) = onEnds (shortestPhrase later) cs :=
  scan_onEnds rfl (fun _ _ => rfl) cs

/-- Of several words the first decides that fits, on every end for itself. -/
theorem oneOf_onEnds (words : List String) (later : List Char → Option (List (List Char)))
    (cs : List Char) :
    pieceCuts cs (onEnds later cs) (.oneOf words) =
      onEnds (fun cs => words.findSome? fun word => (afterWord? word.toList cs).bind later) cs := by
  rw [pieceCuts]
  induction words with
  | nil => exact map_none_append none _ rfl (fun _ _ => rfl) cs
  | cons word words ih =>
    rw [List.foldr_cons, ih, wordCuts_onEnds, zipWith_onEnds]
    congr 1
    funext cs
    rw [List.findSome?_cons]
    cases (afterWord? word.toList cs).bind later <;> rfl

/-- **The tables hold what the pattern finds on every end of the text**, by induction on its pieces, for the
table of a piece is made from that of the pieces behind it. -/
theorem cuts_eq (pattern : Pattern) (cs : List Char) :
    pattern.cuts cs = onEnds pattern.match? cs := by
  induction pattern with
  | nil => exact map_none_append (some []) (match? []) rfl (fun _ _ => rfl) cs
  | cons piece rest ih =>
    have hcons : cuts (piece :: rest) cs = pieceCuts cs (cuts rest cs) piece := rfl
    rw [hcons, ih]
    cases piece with
    | oneOf words => exact oneOf_onEnds words _ cs
    | blanks => exact scan_stepRun _ _ cs
    | token => exact scan_stepRun _ _ cs
    | phrase =>
      rw [pieceCuts, scan_stepPhrase, map_onEnds]
      rfl

/-- The phrases that are found are those of the preferred cut. -/
theorem find?_eq_match? (pattern : Pattern) (cs : List Char) :
    pattern.find? cs = pattern.match? cs := by
  rw [find?, cuts_eq, head?_onEnds]
  rfl

end Fieldbook.Pattern
