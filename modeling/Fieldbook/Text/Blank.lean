/-!
# Blanks

The characters that separate words, and the two operations that rest on them: `trim` takes blanks off
both ends of a text, `words` lists its runs of other characters. A text is `String` in the interfaces
and a list of characters inside, where recursion and induction are at home.

* `trimChars` of a trimmed list is the list itself (`trimChars_trimChars`);
* a list is trimmed when neither end is blank (`Trimmed`), and `trimChars` always is.
-/

namespace Fieldbook.Text

/-- The white space of the Unicode standard, twenty-five characters in all. -/
def isBlank (c : Char) : Bool :=
  let n := c.toNat
  (0x09 ≤ n && n ≤ 0x0D) || n == 0x20 || n == 0x85 || n == 0xA0 || n == 0x1680 ||
    (0x2000 ≤ n && n ≤ 0x200A) || n == 0x2028 || n == 0x2029 || n == 0x202F || n == 0x205F ||
    n == 0x3000

/-- Drops the blanks a list of characters ends with. -/
def trimEnd (cs : List Char) : List Char :=
  (cs.reverse.dropWhile isBlank).reverse

/-- Drops the blanks at both ends. -/
def trimChars (cs : List Char) : List Char :=
  trimEnd (cs.dropWhile isBlank)

/-- The text without the blanks at its ends. -/
def trim (s : String) : String :=
  String.ofList (trimChars s.toList)

/-- The runs of characters other than blanks, in order. -/
def wordChars (cs : List Char) : List (List Char) :=
  (cs.splitOnP isBlank).filter (!·.isEmpty)

/-- The words of a text: its longest pieces without a blank. -/
def words (s : String) : List String :=
  (wordChars s.toList).map String.ofList

/-- The text holds nothing but blanks. -/
def isBlankText (s : String) : Bool :=
  (trim s).isEmpty

/-- Equality that takes an ASCII letter and its other case for the same letter. Letters outside
ASCII must agree as they are. -/
def sameLetters (a b : String) : Bool :=
  a.toList.map Char.toLower == b.toList.map Char.toLower

/-! ## Trimmed texts -/

/-- Neither end of the list is a blank. -/
def Trimmed (cs : List Char) : Prop :=
  (∀ c, cs.head? = some c → isBlank c = false) ∧ (∀ c, cs.getLast? = some c → isBlank c = false)

/-- What is left after the blanks in front are dropped begins with none. -/
theorem head?_dropWhile_isBlank (cs : List Char) (c : Char)
    (h : (cs.dropWhile isBlank).head? = some c) : isBlank c = false := by
  induction cs with
  | nil => simp at h
  | cons d ds ih =>
    rw [List.dropWhile_cons] at h
    split at h
    · exact ih h
    · next hd => simp only [List.head?_cons, Option.some.injEq] at h; subst h; simpa using hd

/-- Nothing is dropped from the front of a list that begins with no blank. -/
theorem dropWhile_isBlank_of_head {cs : List Char}
    (h : ∀ c, cs.head? = some c → isBlank c = false) : cs.dropWhile isBlank = cs := by
  cases cs with
  | nil => rfl
  | cons c cs => rw [List.dropWhile_cons, h c rfl]; rfl

theorem trimEnd_eq_self {cs : List Char} (h : ∀ c, cs.getLast? = some c → isBlank c = false) :
    trimEnd cs = cs := by
  rw [trimEnd, dropWhile_isBlank_of_head, List.reverse_reverse]
  simpa using h

/-- **A trimmed list is left as it is.** -/
theorem trimChars_eq_self {cs : List Char} (h : Trimmed cs) : trimChars cs = cs := by
  rw [trimChars, dropWhile_isBlank_of_head h.1, trimEnd_eq_self h.2]

/-- **What is left after trimming is trimmed**, at its front as well, for dropping the end of a list does
not change what it begins with. -/
theorem trimmed_trimChars (cs : List Char) : Trimmed (trimChars cs) := by
  have hlast : ∀ c, (trimChars cs).getLast? = some c → isBlank c = false := by
    intro c h
    rw [trimChars, trimEnd, List.getLast?_reverse] at h
    exact head?_dropWhile_isBlank _ c h
  refine ⟨fun c h => ?_, hlast⟩
  -- What is left after the ends are dropped is an initial part of what had its front dropped.
  have hpre : trimChars cs <+: cs.dropWhile isBlank := by
    rw [trimChars, trimEnd]
    have := List.dropWhile_suffix (l := (cs.dropWhile isBlank).reverse) isBlank
    simpa using List.reverse_prefix.2 this
  obtain ⟨rest, hrest⟩ := hpre
  apply head?_dropWhile_isBlank cs c
  rw [← hrest, List.head?_append, h]
  rfl

/-- Trimming once is enough. -/
@[simp]
theorem trimChars_trimChars (cs : List Char) : trimChars (trimChars cs) = trimChars cs :=
  trimChars_eq_self (trimmed_trimChars cs)

end Fieldbook.Text
