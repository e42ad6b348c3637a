import Fieldbook.Text.Blank

/-!
# Sentence patterns

A pattern is a list of pieces that a whole text must consist of, one after another: fixed words, runs of
blanks, and places for a phrase. Where a text can be cut in several ways, every piece has its preference:
blanks and tokens are taken as long as possible, phrases as short as possible, earlier pieces deciding
first. A phrase has at least one character and never runs over a line break.

`Pattern.match?` says which cut is the preferred one, and answers its phrases.
-/

namespace Fieldbook

/-- A piece of a sentence pattern. -/
inductive Piece where
  /-- One of these words, letter for letter. -/
  | oneOf (words : List String)
  /-- Blanks, at least one and as many as possible. -/
  | blanks
  /-- Characters other than blanks, at least one and as many as possible. -/
  | token
  /-- A phrase, as short as possible. -/
  | phrase
  deriving DecidableEq

/-- A pattern for whole texts. -/
abbrev Pattern := List Piece

namespace Pattern

variable {α : Type}

/-- What follows one of the words at the front of a text. -/
def afterWord? (word cs : List Char) : Option (List Char) :=
  if word.isPrefixOf cs then some (cs.drop word.length) else none

/-- Takes at least one character that passes the test, and as many as possible so that `next` still
succeeds on what follows. -/
def longestRun (test : Char → Bool) (next : List Char → Option α) : List Char → Option α
  | [] => none
  | c :: cs =>
    if test c then
      match longestRun test next cs with
      | some a => some a
      | none => next cs
    else none

/-- Takes at least one character, none of them a line break, and as few as possible so that `next`
succeeds on what follows. -/
def shortestPhrase (next : List Char → Option α) : List Char → Option (List Char × α)
  | [] => none
  | c :: cs =>
    if c = '\n' then none
    else
      match next cs with
      | some a => some ([c], a)
      | none => (shortestPhrase next cs).map fun (taken, a) => (c :: taken, a)

/-- The phrases of a text that the pattern fits, cut in the preferred way. -/
def match? : Pattern → List Char → Option (List (List Char))
  | [], cs => if cs.isEmpty then some [] else none
  | .oneOf words :: rest, cs =>
    words.findSome? fun word => (afterWord? word.toList cs).bind (match? rest)
  | .blanks :: rest, cs => longestRun Text.isBlank (match? rest) cs
  | .token :: rest, cs => longestRun (!Text.isBlank ·) (match? rest) cs
  | .phrase :: rest, cs =>
    (shortestPhrase (match? rest) cs).map fun (taken, phrases) => taken :: phrases

end Pattern

end Fieldbook
