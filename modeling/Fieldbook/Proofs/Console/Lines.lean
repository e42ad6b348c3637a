import Fieldbook.Proofs.Console.Action
import Fieldbook.Proofs.Text.Words

/-!
# What a line of a conversation comes to

Lines that were typed one after another are read one after another (`Session.lines_typed`). A line is first
looked at for the words of the conversation itself, by its words, and is a sentence otherwise. None of these
words begins a sentence that can be understood (`Command.ofSentence_of_no_verb`). So every line but the last
ones comes to what its sentence comes to, whichever way it was looked at (`Session.exists_turn`).
-/

namespace Fieldbook

/-! ## Sentences without a verb -/

namespace Command

theorem match?_verbs_eq_none {verbs : List String} {cs : List Char}
    (h : ∀ verb ∈ verbs, ¬ verb.toList <+: cs) (rest : Pattern) :
    Pattern.match? (.oneOf verbs :: rest) cs = none := by
  rw [Pattern.match?, List.findSome?_eq_none_iff]
  intro verb hverb
  rw [Pattern.afterWord?, if_neg]
  · rfl
  · rw [List.isPrefixOf_iff_prefix]
    exact h verb hverb

/-- A sentence that begins with none of the verbs is not understood. -/
theorem ofSentence_of_no_verb {cs : List Char}
    (h : ∀ verb ∈ ["set", "update", "delete"], ¬ verb.toList <+: cs) : ofSentence cs = unrecognized := by
  have hupdate : ∀ verb ∈ ["set", "update"], ¬ verb.toList <+: cs := fun verb hverb =>
    h verb (List.mem_append_left ["delete"] hverb)
  have hdelete : ∀ verb ∈ ["delete"], ¬ verb.toList <+: cs := fun verb hverb =>
    h verb (List.mem_append_right ["set", "update"] hverb)
  have hfirst : updateByType.find? cs = none :=
    (Pattern.find?_eq_match? _ _).trans (match?_verbs_eq_none hupdate _)
  have hsecond : updateWhere.find? cs = none :=
    (Pattern.find?_eq_match? _ _).trans (match?_verbs_eq_none hupdate _)
  have hthird : deleteRowsWhere.find? cs = none :=
    (Pattern.find?_eq_match? _ _).trans (match?_verbs_eq_none hdelete _)
  have hfourth : deleteWhere.find? cs = none :=
    (Pattern.find?_eq_match? _ _).trans (match?_verbs_eq_none hdelete _)
  rw [ofSentence, hfirst, hsecond, hthird, hfourth]
  rfl

/-- Blanks around a sentence mean nothing. -/
theorem run_trim (text : String) (set : WorkingSet) : run (Text.trim text) set = run text set := by
  rw [run, run, parse, parse, Text.toList_trim, Text.trimChars_trimChars]

theorem run_of_no_verb {text : String} (htrimmed : Text.Trimmed text.toList)
    (h : ∀ verb ∈ ["set", "update", "delete"], ¬ verb.toList <+: Text.lowerChars text.toList)
    (set : WorkingSet) : run text set = (set, .failed .notUnderstood) := by
  rw [run, parse, Text.trimChars_eq_self htrimmed, ofSentence_of_no_verb h]
  rfl

/-- What begins with `show` begins with no verb. -/
theorem not_prefix_lowerChars_show (more : List Char) :
    ∀ verb ∈ ["set", "update", "delete"], ¬ verb.toList <+: Text.lowerChars ("show".toList ++ more) := by
  obtain ⟨rest, hlower⟩ : ∃ rest, Text.lowerChars ("show".toList ++ more) = 's' :: 'h' :: rest :=
    ⟨_, rfl⟩
  rw [hlower]
  intro verb hverb hprefix
  simp only [List.mem_cons, List.not_mem_nil, or_false] at hverb
  obtain rfl | rfl | rfl := hverb
  · exact absurd (List.cons_prefix_cons.1 (List.cons_prefix_cons.1 hprefix).2).1 (by decide)
  · exact absurd (List.cons_prefix_cons.1 hprefix).1 (by decide)
  · exact absurd (List.cons_prefix_cons.1 hprefix).1 (by decide)

end Command

/-! ## Lines -/

namespace Session

/-- The input of lines, each ended by a line break. -/
def typed (lines : List String) : String := String.join (lines.map (· ++ "\n"))

theorem splitOnP_typed {lines : List String} (h : ∀ line ∈ lines, '\n' ∉ line.toList) :
    (typed lines).toList.splitOnP (· == '\n') = lines.map String.toList ++ [[]] := by
  induction lines with
  | nil => rfl
  | cons line rest ih =>
    have htyped : (typed (line :: rest)).toList = line.toList ++ '\n' :: (typed rest).toList := by
      rw [typed, List.map_cons, String.join_cons, String.toList_append, String.toList_append,
        List.append_assoc]
      rfl
    have hline : ∀ c ∈ line.toList, (c == '\n') = false := by
      intro c hc
      refine beq_false_of_ne ?_
      rintro rfl
      exact h line List.mem_cons_self hc
    rw [htyped, List.splitOnP_append_cons_of_forall_mem hline '\n' rfl,
      ih fun l hl => h l (List.mem_cons_of_mem _ hl)]
    rfl

/-- **Lines that were typed are the lines that are read.** -/
theorem lines_typed {lines : List String} (h : ∀ line ∈ lines, '\n' ∉ line.toList) :
    Session.lines (typed lines) = lines := by
  have hpieces : ((typed lines).toList.splitOnP (· == '\n')).map String.ofList = lines ++ [""] := by
    rw [splitOnP_typed h, List.map_append, List.map_map]
    simp
  rw [Session.lines, hpieces]
  simp

variable {snapshot line : String} {set : WorkingSet}

/-- The line does not end the conversation. -/
def Stays (line : String) : Prop :=
  Text.trim (Text.edited line) ≠ "exit" ∧ Text.trim (Text.edited line) ≠ "quit"

/-- **A line that does not end the conversation comes to what its sentence comes to.** If the sentence is
carried out, that is said and the working set is kept; else nothing is done but speak. -/
theorem exists_turn (h : Stays line) :
    let result := Command.run (Text.edited line) set
    ∃ actions, turn snapshot set line = .stay result.1 actions ∧
      (result.2.succeeded = true → actions = Action.afterCommand snapshot result.1 result.2 none) ∧
      (result.2.succeeded = false → actions.all Action.isSpoken = true) := by
  intro result
  obtain ⟨hexit, hquit⟩ := h
  have hrun : Command.run (Text.trim (Text.edited line)) set = result := Command.run_trim _ set
  have htrimmed : Text.Trimmed (Text.trim (Text.edited line)).toList := by
    rw [Text.toList_trim]
    exact Text.trimmed_trimChars _
  rw [turn]
  dsimp only
  generalize Text.trim (Text.edited line) = sentence at hexit hquit hrun htrimmed ⊢
  -- The words of the conversation begin no sentence that is understood.
  have hother (h : ∀ verb ∈ ["set", "update", "delete"],
      ¬ verb.toList <+: Text.lowerChars sentence.toList) : result = (set, .failed .notUnderstood) :=
    hrun ▸ Command.run_of_no_verb htrimmed h set
  have hspoken (actions : List Action) (hall : actions.all Action.isSpoken = true)
      (h : result = (set, .failed .notUnderstood)) :
      ∃ actions', Turn.stay set actions = .stay result.1 actions' ∧
        (result.2.succeeded = true → actions' = Action.afterCommand snapshot result.1 result.2 none) ∧
        (result.2.succeeded = false → actions'.all Action.isSpoken = true) := by
    rw [h]
    exact ⟨actions, rfl, nofun, fun _ => hall⟩
  split
  · next hwords =>
    have hnil : sentence.toList = [] :=
      Text.eq_nil_of_wordChars_eq_nil htrimmed (List.map_eq_nil_iff.1 hwords)
    exact hspoken _ rfl (hother (by rw [hnil]; decide))
  · next hwords => exact absurd (Text.eq_of_words_eq_singleton htrimmed hwords) hexit
  · next hwords => exact absurd (Text.eq_of_words_eq_singleton htrimmed hwords) hquit
  · next hwords =>
    have hsentence := Text.eq_of_words_eq_singleton htrimmed hwords
    exact hspoken _ rfl (hother (by rw [hsentence]; decide))
  · next hwords =>
    have hsentence := Text.eq_of_words_eq_singleton htrimmed hwords
    exact hspoken _ rfl (hother (by rw [hsentence]; decide))
  · next hwords =>
    have hsentence := Text.eq_of_words_eq_singleton htrimmed hwords
    exact hspoken _ rfl (hother (by rw [hsentence]; decide))
  · next hwords =>
    obtain ⟨more, hsentence, -⟩ := Text.exists_of_words_eq_cons htrimmed hwords
    exact hspoken _ rfl (hother (by rw [hsentence]; exact Command.not_prefix_lowerChars_show more))
  · rw [hrun]
    refine ⟨_, rfl, fun _ => rfl, fun hfailed => ?_⟩
    rw [Action.afterCommand, hfailed, if_neg Bool.false_ne_true]
    rfl

end Session

end Fieldbook
