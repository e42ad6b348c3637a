import Fieldbook.Console.Report
import Fieldbook.Files

/-!
# Actions

What the program does to the world outside, as data: it says something, complains, writes a table or
keeps the working set. Which actions are due is decided before the first of them is carried out, so all
that can still go wrong is a file; then the rest is not carried out.

`Action.perform` carries actions out on a desk, that is a tree of files and what was printed so far.
-/

namespace Fieldbook

/-- One action. -/
inductive Action where
  /-- Prints on the standard output. -/
  | say (text : String)
  /-- Prints on the standard error. -/
  | complain (text : String)
  /-- Writes a table. -/
  | create (path content : String)
  /-- Keeps the working set; `doing` says so in case it fails. -/
  | save (path content : String) (doing : Option String)
  /-- Gives up. -/
  | fail (failure : Failure)
  deriving DecidableEq

/-- A tree of files and what was printed so far. -/
structure Desk where
  files : Files
  out : String := ""
  err : String := ""

namespace Failure

/-- The working set could not be kept or fetched from its file. -/
def ofFile (doing : Option String) (e : FileError) : Failure :=
  let causes := [s!"IO error: {e.message}", e.message]
  match doing with
  | some doing => ⟨doing, causes⟩
  | none => ⟨s!"IO error: {e.message}", [e.message]⟩

/-- A table could not be written. -/
def ofCreate (path : String) (e : FileError) : Failure := ⟨s!"creating {path}", [e.message]⟩

end Failure

namespace Action

/-- Carries out one action. -/
def perform (desk : Desk) : Action → Desk × Option Failure
  | say text => ({ desk with out := desk.out ++ text }, none)
  | complain text => ({ desk with err := desk.err ++ text }, none)
  | create path content =>
    match desk.files.write (.ofText path) content.toUTF8 with
    | .ok files => ({ desk with files }, none)
    | .error e => (desk, some (.ofCreate path e))
  | save path content doing =>
    let (files, error) := desk.files.save (.ofText path) content.toUTF8
    ({ desk with files }, error.map (.ofFile doing))
  | fail failure => (desk, some failure)

/-- Carries out actions up to the first that fails. -/
def performAll (desk : Desk) : List Action → Desk × Option Failure
  | [] => (desk, none)
  | action :: rest =>
    match action.perform desk with
    | (desk, none) => performAll desk rest
    | (desk, some failure) => (desk, some failure)

/-- Actions are performed in parts, and after a failure none of the later ones is. -/
theorem performAll_append (desk : Desk) (as bs : List Action) :
    performAll desk (as ++ bs) =
      match performAll desk as with
      | (desk, none) => performAll desk bs
      | (desk, some failure) => (desk, some failure) := by
  induction as generalizing desk with
  | nil => rfl
  | cons a as ih =>
    rw [List.cons_append, performAll, performAll]
    split
    · exact ih _
    · rfl

end Action

end Fieldbook
