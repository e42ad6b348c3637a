import Fieldbook.Console.Session

/-!
# What actions leave

Most actions only speak (`Action.isSpoken`): they print, or they give up. These leave the files as they are
(`files_performAll`), and whatever the actions, what was printed stays printed (`out_prefix_performAll`). What
comes of a command is said, and then the working set is kept if the command was carried out
(`files_performAll_afterCommand`).
-/

namespace Fieldbook

namespace Action

/-- The action only prints, or gives up. -/
def isSpoken : Action → Bool
  | say _ | complain _ | fail _ => true
  | create _ _ | save _ _ _ => false

/-- **What each of the actions keeps is kept by all of them**, wherever they stop. -/
theorem performAll_induction (Keeps : Desk → Prop) {actions : List Action} {desk : Desk}
    (h : ∀ action ∈ actions, ∀ desk, Keeps desk → Keeps (action.perform desk).1) (hdesk : Keeps desk) :
    Keeps (performAll desk actions).1 := by
  induction actions generalizing desk with
  | nil => exact hdesk
  | cons action rest ih =>
    have hfirst := h action List.mem_cons_self desk hdesk
    rw [performAll]
    split
    · next heq =>
      rw [heq] at hfirst
      exact ih (fun a ha => h a (List.mem_cons_of_mem _ ha)) hfirst
    · next heq =>
      rw [heq] at hfirst
      exact hfirst

theorem files_perform {action : Action} (h : action.isSpoken = true) (desk : Desk) :
    (action.perform desk).1.files = desk.files := by
  cases action with
  | say text => rfl
  | complain text => rfl
  | fail failure => rfl
  | create path content => cases h
  | save path content doing => cases h

/-- Speaking leaves the files alone. -/
theorem files_performAll {actions : List Action} (h : actions.all isSpoken = true) (desk : Desk) :
    (performAll desk actions).1.files = desk.files := by
  refine performAll_induction (fun d => d.files = desk.files) (fun action haction d hd => ?_) rfl
  exact (files_perform (List.all_eq_true.1 h action haction) d).trans hd

/-- What was printed stays printed. -/
theorem out_prefix_perform (desk : Desk) (action : Action) :
    desk.out.toList <+: (action.perform desk).1.out.toList := by
  cases action with
  | say text =>
    simp only [perform, String.toList_append]
    exact List.prefix_append _ _
  | complain text => exact List.prefix_refl _
  | fail failure => exact List.prefix_refl _
  | create path content =>
    simp only [perform]
    split
    · exact List.prefix_refl _
    · exact List.prefix_refl _
  | save path content doing =>
    simp only [perform]
    exact List.prefix_refl _

theorem out_prefix_performAll (desk : Desk) (actions : List Action) :
    desk.out.toList <+: (performAll desk actions).1.out.toList :=
  performAll_induction (fun d => desk.out.toList <+: d.out.toList)
    (fun action _ d hd => hd.trans (out_prefix_perform d action)) (List.prefix_refl _)

/-- What comes of a command is kept if the command was carried out, and nothing else happens to the files. -/
theorem files_performAll_afterCommand (desk : Desk) (snapshot : String) (set : WorkingSet)
    (outcome : Outcome) (doing : Option String) :
    (performAll desk (afterCommand snapshot set outcome doing)).1.files =
      if outcome.succeeded then (desk.files.save (.ofText snapshot) set.save.toUTF8).1
      else desk.files := by
  rw [afterCommand]
  cases outcome.succeeded with
  | false => rfl
  | true =>
    rw [if_pos rfl, if_pos rfl, performAll, perform, keep]
    dsimp only
    rw [performAll, perform]
    dsimp only
    generalize desk.files.save (.ofText snapshot) set.save.toUTF8 = result
    obtain ⟨files, error⟩ := result
    cases error with
    | none => rfl
    | some e => rfl

end Action

end Fieldbook
