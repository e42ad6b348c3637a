import Fieldbook.Proofs.Json.Tokens

/-!
# Documents, written and read

Whatever document can be written (`IsWritten`) is read back from its text, member for member and digit
for digit (`read?_pretty`). The induction is on the document, in three parts as the printer has them:

* `value?_print` for a document, which stops where it ends because of what stands behind it (`Behind`);
* `items?_printItems` and `members?_printMembers` for what is inside of brackets, up to the closing one.

Each part also says that the bound on nested calls is not reached: one more than the length of the text
will do.
-/

namespace Fieldbook.Json

/-! ## White space -/

/-- Blanks and line breaks are skipped. -/
theorem skipSpace_blanks {cs : List Char} (h : ∀ c ∈ cs, c = ' ' ∨ c = '\n') (rest : List Symbol) :
    skipSpace (cs.map .char ++ rest) = skipSpace rest := by
  induction cs with
  | nil => rfl
  | cons c cs ih =>
    have hrest := ih fun d hd => h d (List.mem_cons_of_mem c hd)
    rcases h c List.mem_cons_self with rfl | rfl <;> exact hrest

theorem skipSpace_lineBreak (depth : Nat) (rest : List Symbol) :
    skipSpace ((lineBreak depth).map .char ++ rest) = skipSpace rest := by
  refine skipSpace_blanks (fun c hc => ?_) rest
  rcases List.mem_cons.1 hc with rfl | hc
  · exact .inr rfl
  · exact .inl (List.eq_of_mem_replicate hc)

/-- A document may begin with white space. -/
theorem value?_congr {bound : Nat} {symbols others : List Symbol}
    (h : skipSpace symbols = skipSpace others) : value? bound symbols = value? bound others := by
  cases bound with
  | zero => rfl
  | succ bound => simp only [value?, h]

theorem value?_blank (bound : Nat) (symbols : List Symbol) :
    value? bound (.char ' ' :: symbols) = value? bound symbols := value?_congr rfl

theorem value?_lineBreak (bound depth : Nat) (symbols : List Symbol) :
    value? bound ((lineBreak depth).map .char ++ symbols) = value? bound symbols :=
  value?_congr (skipSpace_lineBreak depth symbols)

/-! ## What one call reads -/

variable {bound : Nat} {symbols rest behind : List Symbol}

/-- A bracket that is not closed at once opens an array of items. -/
theorem value?_bracket {c : Char} (h : skipSpace rest = .char c :: behind) (hc : c ≠ ']') :
    value? (bound + 1) (.char '[' :: rest) =
      (items? bound rest).map fun (items, rest) => (.array items, rest) := by
  have hspace : skipSpace (.char '[' :: rest) = .char '[' :: rest := rfl
  simp only [value?, hspace, h]
  split
  · next heq => cases heq; exact absurd rfl hc
  · rfl

/-- A brace that is not closed at once opens an object of members. -/
theorem value?_brace {c : Char} (h : skipSpace rest = .char c :: behind) (hc : c ≠ '\x7d') :
    value? (bound + 1) (.char '\x7b' :: rest) =
      (members? bound rest).map fun (members, rest) => (.object members, rest) := by
  have hspace : skipSpace (.char '\x7b' :: rest) = .char '\x7b' :: rest := rfl
  simp only [value?, hspace, h]
  split
  · next heq => cases heq; exact absurd rfl hc
  · rfl

/-- What begins with a quote is a string. -/
theorem value?_quote (rest : List Symbol) :
    value? (bound + 1) (.char '"' :: rest) =
      (string? rest).map fun (s, rest) => (.string s, rest) := by
  have hspace : skipSpace (.char '"' :: rest) = .char '"' :: rest := rfl
  simp only [value?, hspace]

/-- A character that a numeral begins with is none of those that no numeral begins with. -/
theorem forall_ne_of_numeral {c : Char} (h : c = '-' ∨ Decimal.isDigit c = true) {others : List Char}
    (hothers : (others.all fun d => d != '-' && !Decimal.isDigit d) = true) : ∀ d ∈ others, c ≠ d := by
  rintro d hd rfl
  have hc := List.all_eq_true.1 hothers c hd
  rcases h with rfl | h
  · exact absurd hc (by decide)
  · simp [h] at hc

/-- What begins with a sign or a digit is a numeral. -/
theorem value?_numeral {c : Char} (h : c = '-' ∨ Decimal.isDigit c = true) (rest : List Symbol) :
    value? (bound + 1) (.char c :: rest) =
      (numeral? (.char c :: rest)).map fun (n, rest) => (.number n, rest) := by
  have hother : ∀ d ∈ [' ', '\n', '\t', '\r', 'n', 't', 'f', '"', '[', '\x7b'], c ≠ d :=
    forall_ne_of_numeral h (by decide)
  simp at hother
  have hspace : skipSpace (.char c :: rest) = .char c :: rest := by
    simp [skipSpace, hother]
  rw [value?, hspace]
  all_goals simp [hother]

/-- An item before a bracket is the last one. -/
theorem items?_last {item : Json} (hitem : value? bound symbols = some (item, behind))
    (hbehind : skipSpace behind = .char ']' :: rest) :
    items? (bound + 1) symbols = some ([item], rest) := by
  simp only [items?, hitem, hbehind]

/-- An item before a comma is followed by the others. -/
theorem items?_more {item : Json} {more : List Symbol}
    (hitem : value? bound symbols = some (item, behind)) (hbehind : skipSpace behind = .char ',' :: more) :
    items? (bound + 1) symbols = (items? bound more).map fun (items, rest) => (item :: items, rest) := by
  simp only [items?, hitem, hbehind]

/-- What a member begins with: its name and the colon behind it. -/
def memberFront (depth : Nat) (name : String) (symbols : List Symbol) : List Symbol :=
  (lineBreak depth).map .char ++ ((printString name).map .char ++ .char ':' :: symbols)

theorem skipSpace_memberFront (depth : Nat) (name : String) (symbols : List Symbol) :
    skipSpace (memberFront depth name symbols) =
      .char '"' :: ((name.toList.flatMap escape ++ ['"']).map .char ++ .char ':' :: symbols) :=
  skipSpace_lineBreak depth _

/-- A member before a brace is the last one. -/
theorem members?_last {depth : Nat} {name : String} {j : Json}
    (hj : value? bound symbols = some (j, behind)) (hbehind : skipSpace behind = .char '\x7d' :: rest) :
    members? (bound + 1) (memberFront depth name symbols) = some ([(some name, j)], rest) := by
  have hcolon : skipSpace (.char ':' :: symbols) = .char ':' :: symbols := rfl
  simp only [members?, skipSpace_memberFront, string?_flatMap_escape, hcolon, hj, hbehind]

/-- A member before a comma is followed by the others. -/
theorem members?_more {depth : Nat} {name : String} {j : Json} {more : List Symbol}
    (hj : value? bound symbols = some (j, behind)) (hbehind : skipSpace behind = .char ',' :: more) :
    members? (bound + 1) (memberFront depth name symbols) =
      (members? bound more).map fun (members, rest) => ((some name, j) :: members, rest) := by
  have hcolon : skipSpace (.char ':' :: symbols) = .char ':' :: symbols := rfl
  simp only [members?, skipSpace_memberFront, string?_flatMap_escape, hcolon, hj, hbehind]

/-! ## Documents that can be written -/

mutual

/-- All strings and names spell a text, and the grammar knows all numerals. -/
def IsWritten : Json → Prop
  | .number n => n.WellFormed
  | .string s => s.isSome
  | .array items => AreWritten items
  | .object members => AreWrittenMembers members
  | _ => True

/-- The same of the items of an array. -/
def AreWritten : List Json → Prop
  | [] => True
  | j :: items => IsWritten j ∧ AreWritten items

/-- The same of the members of an object. -/
def AreWrittenMembers : List (Option String × Json) → Prop
  | [] => True
  | (name, j) :: members => name.isSome ∧ IsWritten j ∧ AreWrittenMembers members

end

/-- A number in writing begins with its sign or a digit, which no other value begins with. -/
theorem exists_printNumeral_eq_cons {n : Numeral} (hn : n.WellFormed) :
    ∃ c cs, printNumeral n = c :: cs ∧ (c = '-' ∨ Decimal.isDigit c = true) := by
  rw [printNumeral_eq]
  cases n.negative with
  | true => exact ⟨'-', _, rfl, .inl rfl⟩
  | false =>
    obtain ⟨c, cs, hcs⟩ := List.exists_cons_of_ne_nil hn.whole_ne_nil
    exact ⟨c, _, by rw [hcs]; rfl, .inr (hn.whole c (hcs ▸ List.mem_cons_self))⟩

/-- A document begins neither with white space nor with a bracket that closes. -/
theorem exists_skipSpace_print {j : Json} (hj : j.IsWritten) (depth : Nat) (rest : List Symbol) :
    ∃ c behind, skipSpace ((print depth j).map .char ++ rest) = .char c :: behind ∧
      c ≠ ']' ∧ c ≠ '\x7d' := by
  match j, hj with
  | .null, _ => exact ⟨'n', _, rfl, by decide, by decide⟩
  | .bool true, _ => exact ⟨'t', _, rfl, by decide, by decide⟩
  | .bool false, _ => exact ⟨'f', _, rfl, by decide, by decide⟩
  | .string _, _ => exact ⟨'"', _, rfl, by decide, by decide⟩
  | .array [], _ => exact ⟨'[', _, rfl, by decide, by decide⟩
  | .array (_ :: _), _ => exact ⟨'[', _, rfl, by decide, by decide⟩
  | .object [], _ => exact ⟨'\x7b', _, rfl, by decide, by decide⟩
  | .object (_ :: _), _ => exact ⟨'\x7b', _, rfl, by decide, by decide⟩
  | .number n, hn =>
    obtain ⟨c, cs, hcs, hc⟩ := exists_printNumeral_eq_cons hn
    have hother : ∀ d ∈ [' ', '\n', '\t', '\r', ']', '\x7d'], c ≠ d :=
      forall_ne_of_numeral hc (by decide)
    simp at hother
    refine ⟨c, cs.map .char ++ rest, ?_, hother.2.2.2.2.1, hother.2.2.2.2.2⟩
    rw [print, hcs]
    simp [skipSpace, hother]

theorem behind_comma (rest : List Symbol) : Behind (.char ',' :: rest) := .inl rfl

theorem behind_lineBreak (depth : Nat) (rest : List Symbol) :
    Behind ((lineBreak depth).map .char ++ rest) := .inr rfl

theorem printItems_cons (depth : Nat) (item : Json) (items : List Json) :
    printItems depth (item :: items) =
      ',' :: (lineBreak depth ++ print depth item ++ printItems depth items) := rfl

theorem printMembers_cons (depth : Nat) (name : String) (j : Json)
    (members : List (Option String × Json)) :
    printMembers depth ((some name, j) :: members) =
      ',' :: (lineBreak depth ++ printString name ++ [':', ' '] ++ print depth j ++
        printMembers depth members) := rfl

/-- After an item nothing follows, or a comma with the others behind it. -/
theorem printItems_cases (depth : Nat) (items : List Json) :
    (items = [] ∧ printItems depth items = []) ∨ ∃ body, printItems depth items = ',' :: body := by
  cases items with
  | nil => exact .inl ⟨rfl, rfl⟩
  | cons item items => exact .inr ⟨_, rfl⟩

/-- After a member nothing follows, or a comma with the others behind it. -/
theorem printMembers_cases (depth : Nat) (members : List (Option String × Json)) :
    (members = [] ∧ printMembers depth members = []) ∨
      ∃ body, printMembers depth members = ',' :: body := by
  cases members with
  | nil => exact .inl ⟨rfl, rfl⟩
  | cons member members => exact .inr ⟨_, rfl⟩

mutual

/-- What is written for a document is read as the document, and nothing behind it is touched. -/
theorem value?_print (j : Json) (hj : j.IsWritten) (depth bound : Nat) (rest : List Symbol)
    (hbound : (print depth j).length < bound) (hrest : Behind rest) :
    value? bound ((print depth j).map .char ++ rest) = some (j, rest) := by
  obtain ⟨bound, rfl⟩ : ∃ more, bound = more + 1 := ⟨bound - 1, by omega⟩
  match j, hj with
  | .null, _ => rfl
  | .bool true, _ => rfl
  | .bool false, _ => rfl
  | .number n, hn =>
    obtain ⟨c, cs, hcs, hc⟩ := exists_printNumeral_eq_cons hn
    have hread := numeral?_printNumeral hn hrest
    rw [hcs] at hread
    rw [print, hcs]
    exact (value?_numeral hc _).trans (congrArg (Option.map _) hread)
  | .string (some s), _ =>
    exact (value?_quote _).trans (congrArg (Option.map _) (string?_flatMap_escape s rest))
  | .array [], _ => rfl
  | .array (item :: items), hj =>
    have hitems := items?_printItems (item :: items) hj (depth + 1) depth bound rest
      (printItems_cons _ item items) (by
      simp [print] at hbound ⊢
      omega)
    obtain ⟨c, behind, hspace, hc, -⟩ := exists_skipSpace_print hj.1 (depth + 1)
      ((printItems (depth + 1) items ++ lineBreak depth ++ [']']).map .char ++ rest)
    rw [← skipSpace_lineBreak (depth + 1)] at hspace
    simp only [print, List.map_append, List.map_cons, List.append_assoc, List.cons_append]
      at hitems hspace ⊢
    rw [value?_bracket hspace hc, hitems]
    rfl
  | .object [], _ => rfl
  | .object ((some name, j) :: members), hj =>
    have hmembers := members?_printMembers ((some name, j) :: members) hj (depth + 1) depth bound rest
      (printMembers_cons _ name j members) (by
        simp [print] at hbound ⊢
        omega)
    have hspace := skipSpace_memberFront (depth + 1) name ((' ' :: (print (depth + 1) j ++
      printMembers (depth + 1) members ++ lineBreak depth ++ ['\x7d'])).map .char ++ rest)
    simp only [print, memberFront, Option.getD_some, List.map_append, List.map_cons, List.map_nil, List.nil_append, List.append_assoc, List.cons_append]
      at hmembers hspace ⊢
    rw [value?_brace hspace (by decide), hmembers]
    rfl

/-- The same for the items behind a comma, up to the bracket that closes their array. -/
theorem items?_printItems (items : List Json) (hitems : AreWritten items) (depth outer bound : Nat)
    (rest : List Symbol) {body : List Char} (hbody : printItems depth items = ',' :: body)
    (hbound : body.length < bound) :
    items? bound ((body ++ lineBreak outer ++ [']']).map .char ++ rest) = some (items, rest) := by
  obtain ⟨bound, rfl⟩ : ∃ more, bound = more + 1 := ⟨bound - 1, by omega⟩
  match items, hitems with
  | [], _ => cases hbody
  | item :: items, ⟨hitem, hitems⟩ =>
    obtain rfl : lineBreak depth ++ print depth item ++ printItems depth items = body := by
      simpa [printItems] using hbody
    have hlength : (print depth item).length + (printItems depth items).length < bound := by
      simp [lineBreak] at hbound
      omega
    have hvalue : ∀ behind, Behind behind →
        value? bound ((lineBreak depth).map .char ++ ((print depth item).map .char ++ behind)) =
          some (item, behind) := by
      intro behind hbehind
      rw [value?_lineBreak]
      exact value?_print item hitem depth bound behind (by omega) hbehind
    rcases printItems_cases depth items with ⟨rfl, hnil⟩ | ⟨more, hmore⟩
    · rw [hnil]
      simp only [List.append_nil, List.map_append, List.append_assoc]
      exact items?_last (hvalue _ (behind_lineBreak outer _)) (skipSpace_lineBreak outer _)
    · have hrest := items?_printItems items hitems depth outer bound rest hmore (by
        rw [hmore, List.length_cons] at hlength
        omega)
      rw [hmore]
      simp only [List.map_append, List.map_cons, List.append_assoc, List.cons_append] at hrest ⊢
      rw [items?_more (hvalue _ (behind_comma _)) rfl, hrest]
      rfl

/-- The same for the members behind a comma, up to the brace that closes their object. -/
theorem members?_printMembers (members : List (Option String × Json))
    (hmembers : AreWrittenMembers members) (depth outer bound : Nat) (rest : List Symbol)
    {body : List Char} (hbody : printMembers depth members = ',' :: body)
    (hbound : body.length < bound) :
    members? bound ((body ++ lineBreak outer ++ ['\x7d']).map .char ++ rest) =
      some (members, rest) := by
  obtain ⟨bound, rfl⟩ : ∃ more, bound = more + 1 := ⟨bound - 1, by omega⟩
  match members, hmembers with
  | [], _ => cases hbody
  | (some name, j) :: members, ⟨_, hj, hmembers⟩ =>
    obtain rfl : lineBreak depth ++ printString name ++ [':', ' '] ++ print depth j ++
        printMembers depth members = body := by
      simpa [printMembers] using hbody
    have hlength : (print depth j).length + (printMembers depth members).length < bound := by
      simp [lineBreak] at hbound
      omega
    have hvalue : ∀ behind, Behind behind →
        value? bound (.char ' ' :: ((print depth j).map .char ++ behind)) = some (j, behind) :=
      fun behind hbehind =>
        (value?_blank bound _).trans (value?_print j hj depth bound behind (by omega) hbehind)
    rcases printMembers_cases depth members with ⟨rfl, hnil⟩ | ⟨more, hmore⟩
    · rw [hnil]
      simp only [List.append_nil, List.map_append, List.append_assoc]
      exact members?_last (hvalue _ (behind_lineBreak outer _)) (skipSpace_lineBreak outer _)
    · have hrest := members?_printMembers members hmembers depth outer bound rest hmore (by
        rw [hmore, List.length_cons] at hlength
        omega)
      rw [hmore]
      simp only [List.map_append, List.map_cons, List.append_assoc, List.cons_append] at hrest ⊢
      refine (members?_more (hvalue _ (behind_comma _)) rfl).trans ?_
      rw [hrest]
      rfl

end

/-- **A document is read back from its text.** -/
theorem read?_pretty {j : Json} (hj : j.IsWritten) : read? (Symbol.ofText j.pretty) = some j := by
  have hread := value?_print j hj 0 (2 * (Symbol.ofText j.pretty).length + 2) []
    (by simp [Symbol.ofText, pretty]; omega) trivial
  rw [List.append_nil] at hread
  rw [read?, Symbol.ofText, pretty, String.toList_ofList] at *
  rw [hread]
  rfl

end Fieldbook.Json
