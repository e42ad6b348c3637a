import Fieldbook.Console.Program
import Fieldbook.Proofs.Console.Action
import Fieldbook.Proofs.Files.Rooted

/-!
# What an invocation leaves alone

Every task but the conversation is one of three courses (`Task.Course`, `Task.exists_course`): it only
speaks, or speaks and then keeps the working set as its last action, or writes a table. Only the second
touches the file of the working set, and when the saving works the program has already said what it did. So
an invocation that fails, that tells of no change or that only reads leaves the file alone
(`Program.run_leavesAlone`). That asks for files that are rooted, as they are after every invocation if they
were before (`Program.rooted_run`).
-/

namespace Fieldbook

/-! ## Courses -/

/-- A text tells that nothing was changed. -/
def TellsNoChange (text : String) : Prop :=
  "no change".toList <+: text.toList ∨ "Unchanged".toList <+: text.toList

/-- What a text begins with decides whether it tells so. -/
theorem not_tellsNoChange {text out : String} {c : Char} (hfirst : text.toList.head? = some c)
    (hno : c ≠ 'n') (hun : c ≠ 'U') (h : text.toList <+: out.toList) : ¬ TellsNoChange out := by
  obtain ⟨rest, hout⟩ := h
  have hc : out.toList.head? = some c := by rw [← hout, List.head?_append, hfirst]; rfl
  rintro (⟨_, hword⟩ | ⟨_, hword⟩)
  · rw [← hword, List.head?_append] at hc
    exact hno (Option.some.inj hc).symm
  · rw [← hword, List.head?_append] at hc
    exact hun (Option.some.inj hc).symm

theorem head?_toList_append {text : String} {c : Char} (h : text.toList.head? = some c) (rest : String) :
    (text ++ rest).toList.head? = some c := by
  rw [String.toList_append, List.head?_append, h]
  rfl

namespace Task

/-- The task does not keep the working set. -/
def isReading : Task → Bool
  | listColumns | listRows _ | exportTable _ => true
  | _ => false

/-- The courses that a task can take. -/
inductive Course (snapshot : String) (task : Task) : List Action → Prop where
  | speak {actions : List Action} (h : actions.all Action.isSpoken = true) : Course snapshot task actions
  /-- What is said first begins with `c`. -/
  | keep (c : Char) (front : List Action) {text content : String} {doing : Option String}
      (hfirst : text.toList.head? = some c) (hno : c ≠ 'n') (hun : c ≠ 'U')
      (hfront : front.all Action.isSpoken = true) (hkeeping : task.isReading = false) :
      Course snapshot task (.say text :: front ++ [.save snapshot content doing])
  | table {output content text : String} (htask : task = .exportTable output) :
      Course snapshot task [.create output content, .say text]

variable {found : Circumstances} {snapshot : String} {set : WorkingSet}

theorem all_isSpoken_progress (events : List IngestEvent) :
    (events.flatMap progress).all Action.isSpoken = true := by
  rw [List.all_flatMap, List.all_eq_true]
  intro event _
  cases event with
  | batch rows => rfl
  | progress done total => rfl

theorem course_fetch (flags : SettingsFlags) :
    Course snapshot (.fetch flags) (fetchActions found snapshot set flags) := by
  rw [fetchActions]
  split
  · exact .speak rfl
  · dsimp only
    split
    · exact .speak rfl
    · next ingestion _ =>
      have hends (start told last : Action) :
          [start] ++ ingestion.events.flatMap progress ++ [.complain "\n", told, last] =
            start :: (ingestion.events.flatMap progress ++ [.complain "\n", told]) ++ [last] := by
        simp
      have hfront (told : String) : (ingestion.events.flatMap progress ++
          [.complain "\n", .say told] : List Action).all Action.isSpoken = true := by
        rw [List.all_append, all_isSpoken_progress]
        rfl
      rw [hends]
      exact .keep 'F' _ (head?_toList_append (head?_toList_append rfl _) _) (by decide) (by decide)
        (hfront _) rfl

theorem course_run (words : List String) : Course snapshot (.run words) (runActions snapshot set words) := by
  rw [runActions]
  generalize Command.run (" ".intercalate words) set = result
  obtain ⟨set, outcome⟩ := result
  dsimp only [Action.afterCommand]
  cases hsucceeded : outcome.succeeded with
  | true =>
    rw [Report.outcome, hsucceeded, if_pos rfl, if_pos rfl]
    exact .keep 'o' [] (head?_toList_append (head?_toList_append rfl _) _) (by decide) (by decide) rfl rfl
  | false => exact .speak rfl

theorem course_import (input : String) (pairs : List String) (append : Bool) :
    Course snapshot (.importTable input pairs append)
      (importActions found snapshot set input pairs append) := by
  rw [importActions]
  split
  · exact .speak rfl
  · split
    · exact .speak rfl
    · exact .keep 'I' [] (head?_toList_append (head?_toList_append rfl _) _) (by decide) (by decide) rfl rfl

theorem course_addColumn (label : String) (kind : ColumnKind) :
    Course snapshot (.addColumn label kind) (columnActions snapshot set label kind) := by
  rw [columnActions]
  split
  · exact .speak rfl
  · exact .keep 'A' [] (head?_toList_append (head?_toList_append rfl _) _) (by decide) (by decide) rfl rfl
  · exact .speak rfl

/-- Every task but the conversation takes a course. -/
theorem exists_course {task : Task} (htask : task ≠ .converse) :
    ∃ actions, task.plan found snapshot set = .act actions ∧ Course snapshot task actions := by
  cases task with
  | fetch flags => exact ⟨_, rfl, course_fetch flags⟩
  | run words => exact ⟨_, rfl, course_run words⟩
  | converse => exact absurd rfl htask
  | importTable input pairs append => exact ⟨_, rfl, course_import input pairs append⟩
  | exportTable output => exact ⟨_, rfl, .table rfl⟩
  | addColumn label kind => exact ⟨_, rfl, course_addColumn label kind⟩
  | listColumns => exact ⟨_, rfl, .speak rfl⟩
  | listRows limit => exact ⟨_, rfl, .speak rfl⟩

end Task

namespace Program

variable {here : Surroundings} {invocation : Invocation}

/-- Telling of a failure leaves the files alone. -/
theorem files_finish (desk : Desk) (actions : List Action) :
    (finish desk actions).desk.files = (Action.performAll desk actions).1.files := by
  rw [finish]
  split
  · next heq => rw [heq]
  · next heq => rw [heq]

theorem invoke_of_act {actions : List Action}
    (h : Plan.ofInvocation (look here invocation) invocation = .act actions) :
    invoke here invocation = finish { files := here.files } actions := by
  unfold invoke
  rw [h]

/-- What is told of a failure is not told on the standard output. -/
theorem out_prefix_finish (desk : Desk) (actions : List Action) :
    desk.out.toList <+: (finish desk actions).desk.out.toList := by
  have hout := Action.out_prefix_performAll desk actions
  rw [finish]
  split
  · next heq =>
    rw [heq] at hout
    exact hout
  · next heq =>
    rw [heq] at hout
    exact hout

/-- What is said first stands at the beginning of what is printed. -/
theorem text_prefix_finish_say (files : Files) (text : String) (rest : List Action) :
    text.toList <+: (finish { files } (.say text :: rest)).desk.out.toList := by
  have hout := out_prefix_finish { files, out := "" ++ text } rest
  rwa [String.empty_append] at hout

/-- What comes of speaking and then keeping the working set: the files are as they were, or the saving failed,
or it worked. -/
theorem finish_keep {front : List Action} (hfront : front.all Action.isSpoken = true)
    (desk : Desk) (snapshot content : String) (doing : Option String) :
    let ending := finish desk (front ++ [.save snapshot content doing])
    ending.desk.files = desk.files ∨
      (ending.code ≠ 0 ∧
        ∃ e, desk.files.save (.ofText snapshot) content.toUTF8 = (ending.desk.files, some e)) ∨
      ending.code = 0 := by
  have hfiles := Action.files_performAll hfront desk
  intro ending
  have hending : ending = finish desk (front ++ [.save snapshot content doing]) := rfl
  rw [finish, Action.performAll_append] at hending
  cases hperform : Action.performAll desk front with
  | mk middle failure =>
    rw [hperform] at hending hfiles
    cases failure with
    | some failure =>
      rw [hending]
      exact .inl hfiles
    | none =>
      simp only [Action.performAll, Action.perform] at hending
      dsimp only at hfiles
      rw [← hfiles]
      generalize hsave : middle.files.save (.ofText snapshot) content.toUTF8 = result at hending
      obtain ⟨after, error⟩ := result
      cases error with
      | some e =>
        rw [hending]
        exact .inr (.inl ⟨Nat.one_ne_zero, e, rfl⟩)
      | none =>
        rw [hending]
        exact .inr (.inr rfl)

end Program

/-- The ending shows that there was nothing to keep: it is a failure or tells of no change, or the task only
reads. -/
def Ending.IsIdle (ending : Ending) (task : Task) : Prop :=
  ending.code ≠ 0 ∨ TellsNoChange ending.desk.out ∨ task.isReading = true

/-- The ending leaves the file under a path alone: what was there is spared, and where nothing was nothing is,
unless the ending is a failure and the path leaves a directory that was missing. -/
structure Ending.LeavesAlone (ending : Ending) (files : Files) (path : Path) : Prop where
  spares : files.Spares ending.desk.files path
  absent : ending.code = 0 ∨ files.LeavesPresent path →
    ∀ content, ending.desk.files.read path = .ok content → files.read path = .ok content

theorem Ending.leavesAlone_of_files_eq {ending : Ending} {files : Files} (h : ending.desk.files = files)
    (path : Path) : ending.LeavesAlone files path := by
  constructor
  · rw [h]
    exact .refl files path
  · intro _ content hread
    rwa [h] at hread

/-- Under a path that leaves no missing directory, the same is read as before. -/
theorem Ending.LeavesAlone.read_eq_ok_iff {ending : Ending} {files : Files} {path : Path}
    (h : ending.LeavesAlone files path) (hpresent : files.LeavesPresent path) {content : ByteArray} :
    ending.desk.files.read path = .ok content ↔ files.read path = .ok content :=
  ⟨h.absent (.inr hpresent) content, h.spares.kept content⟩

/-- The task writes no table over the file of the working set. -/
def Invocation.WritesElsewhere (invocation : Invocation) (files : Files) : Prop :=
  ∀ output, invocation.task = .exportTable output → ∀ place,
    files.locate (.ofText output) = .ok place → files.locate (.ofText invocation.snapshot) ≠ .ok place

namespace Program

variable {here : Surroundings} {files : Files} {invocation : Invocation}

/-- Whatever the course, an idle ending leaves the file of the working set alone. -/
theorem finish_leavesAlone {actions : List Action}
    (hcourse : Task.Course invocation.snapshot invocation.task actions) (hrooted : files.Rooted)
    (helsewhere : invocation.WritesElsewhere files)
    (hidle : (finish { files } actions).IsIdle invocation.task) :
    (finish { files } actions).LeavesAlone files (.ofText invocation.snapshot) := by
  cases hcourse with
  | speak hspoken =>
    exact Ending.leavesAlone_of_files_eq ((files_finish _ _).trans (Action.files_performAll hspoken _)) _
  | @keep c front text content doing hfirst hno hun hfront hkeeping =>
    have hspoken : (Action.say text :: front).all Action.isSpoken = true := hfront
    obtain hfiles | ⟨hcode, e, hsave⟩ | hcode :=
      finish_keep hspoken { files } invocation.snapshot content doing
    · exact Ending.leavesAlone_of_files_eq hfiles _
    · refine ⟨Files.spares_of_failed_save hsave, fun h content hread => ?_⟩
      exact Files.read_of_read_failed_save hrooted (h.resolve_left hcode) hsave hread
    · -- It worked, and so the ending is not idle.
      obtain hfailed | htold | hreading := hidle
      · exact absurd hcode hfailed
      · exact absurd htold (not_tellsNoChange hfirst hno hun (text_prefix_finish_say files text _))
      · rw [hkeeping] at hreading
        cases hreading
  | @table output content text htask =>
    cases hwrite : files.write (.ofText output) content.toUTF8 with
    | error e =>
      refine Ending.leavesAlone_of_files_eq ?_ _
      simp only [finish, Action.performAll, Action.perform, hwrite]
    | ok after =>
      have hafter : (finish { files } [.create output content, .say text]).desk.files = after := by
        simp only [finish, Action.performAll, Action.perform, hwrite]
      obtain ⟨hspares, hread⟩ := Files.spares_of_write hwrite (helsewhere output htask)
      constructor
      · rw [hafter]
        exact hspares
      · rw [hafter]
        exact fun _ => hread

/-- **An invocation that fails, that tells of no change or that only reads leaves the file of the working set
alone.** Arguments that make no sense leave all files alone. A file that was not there is not there
afterwards, unless the saving failed under a path that leaves a missing directory: then that directory may
have been made, and the path leads to what was there before. -/
theorem run_leavesAlone (hrooted : here.files.Rooted) (words : List String) :
    let ending := run here words
    (∀ refusal, Invocation.ofArguments words = .error refusal → ending.desk.files = here.files) ∧
      ∀ invocation, Invocation.ofArguments words = .ok invocation → invocation.task ≠ .converse →
        invocation.WritesElsewhere here.files → ending.IsIdle invocation.task →
        ending.LeavesAlone here.files (.ofText invocation.snapshot) := by
  intro ending
  constructor
  · intro refusal hwords
    simp only [ending, run, hwords]
  · intro invocation hwords htask helsewhere hidle
    obtain ⟨actions, hplan, hcourse⟩ : ∃ actions,
        Plan.ofInvocation (look here invocation) invocation = .act actions ∧
          Task.Course invocation.snapshot invocation.task actions := by
      rw [Plan.ofInvocation]
      split
      · exact ⟨_, rfl, .speak rfl⟩
      · exact Task.exists_course htask
    have hending : ending = finish { files := here.files } actions := by
      simp only [ending, run, hwords, invoke_of_act hplan]
    rw [hending] at hidle ⊢
    exact finish_leavesAlone hcourse hrooted helsewhere hidle

/-- A working set that cannot be read is left alone: the same is read as before, from where it lay. -/
theorem run_leavesAlone_unreadable :
    let here : Surroundings :=
      { files := ({} : Files).put ["dexlab.json"] (.file "kept".toUTF8), freshId := fun _ => "a" }
    let ending := run here ["run", "delete where name is x"]
    ending.code = 1 ∧
      (∀ content, ending.desk.files.read (.ofText "./dexlab.json") = .ok content ↔
        content = "kept".toUTF8) ∧
      ∃ place, ending.desk.files.locate (.ofText "./dexlab.json") = .ok place ∧
        here.files.lookup? place = some (.file "kept".toUTF8) := by
  intro here ending
  have hreached : Files.Reached {} ([] ++ ["dexlab.json"]) :=
    (Files.Reached.of_all_isAbove rfl).concat rfl (by decide)
  have hrooted : here.files.Rooted := Files.rooted_empty.put hreached (by rintro ⟨⟩) _
  have hwords : Invocation.ofArguments ["run", "delete where name is x"] =
      .ok ⟨"./dexlab.json", .run ["delete where name is x"]⟩ := by decide +kernel
  have hcode : ending.code = 1 := by decide +kernel
  have hread : here.files.read (.ofText "./dexlab.json") = .ok "kept".toUTF8 := by
    decide +kernel
  have hpresent : here.files.LeavesPresent (.ofText "./dexlab.json") :=
    Files.leavesPresent_of_not_mem (by decide)
  obtain ⟨-, halone⟩ := run_leavesAlone hrooted ["run", "delete where name is x"]
  have hleaves := halone _ hwords (by rintro ⟨⟩) (by rintro _ ⟨⟩) (.inl (by rw [hcode]; decide))
  have hsame (content : ByteArray) : ending.desk.files.read (.ofText "./dexlab.json") = .ok content ↔
      here.files.read (.ofText "./dexlab.json") = .ok content := hleaves.read_eq_ok_iff hpresent
  refine ⟨hcode, fun content => ?_, hleaves.spares.exists_lookup? ((hsame _).2 hread)⟩
  rw [hsame, hread, Except.ok.injEq, eq_comm]

end Program

/-! ## Rooted files -/

namespace Action

/-- One action leaves the files rooted, be it that it fails. -/
theorem rooted_perform {desk : Desk} (h : desk.files.Rooted) (action : Action) :
    (action.perform desk).1.files.Rooted := by
  cases action with
  | say text => exact h
  | complain text => exact h
  | fail failure => exact h
  | create path content =>
    simp only [perform]
    split
    · next hwrite => exact h.write hwrite
    · exact h
  | save path content doing => exact h.save _ _

/-- And so do actions one after another. -/
theorem rooted_performAll {desk : Desk} (h : desk.files.Rooted) (actions : List Action) :
    (performAll desk actions).1.files.Rooted :=
  performAll_induction (fun d => d.files.Rooted) (fun action _ _ hd => rooted_perform hd action) h

end Action

namespace Session

/-- What is said on the way leaves the files as the actions leave them. -/
theorem files_settle (desk : Desk) (actions : List Action) :
    (settle desk actions).files = (Action.performAll desk actions).1.files := by
  rw [settle]
  split
  · next heq => rw [heq]
  · next heq => rw [heq]

theorem rooted_settle {desk : Desk} (h : desk.files.Rooted) (actions : List Action) :
    (settle desk actions).files.Rooted := by
  rw [files_settle]
  exact Action.rooted_performAll h actions

/-- A conversation leaves the files rooted, by induction on its lines. -/
theorem rooted_converse {snapshot : String} {set : WorkingSet} {desk : Desk} (h : desk.files.Rooted)
    (lines : List String) : (converse snapshot set desk lines).files.Rooted := by
  induction lines generalizing set desk with
  | nil => exact rooted_settle h _
  | cons line rest ih =>
    unfold converse
    split
    · exact rooted_settle h _
    · exact ih (rooted_settle (rooted_settle h _) _)

end Session

namespace Program

/-- **Every invocation leaves the files rooted**, whatever it is and however it ends. -/
theorem rooted_run {here : Surroundings} (h : here.files.Rooted) (words : List String) :
    (run here words).desk.files.Rooted := by
  rw [run]
  split
  · next invocation _ =>
    unfold invoke
    split
    · rw [files_finish]
      exact Action.rooted_performAll h _
    · exact Session.rooted_converse (Session.rooted_settle h _) _
  · exact h

/-- A save that fails can bring a file up, though it changes none. Beside `kept.json` a first invocation keeps
a working set in the directory `kept.json.tmp`, so that no draft of `kept.json` can be written. On its way to
`new/../kept.json` a second one makes the directory that the path leaves, and then fails. From then on the path
leads to `kept.json`, and its column is listed under a path that there was nothing to list under. -/
theorem run_brings_up :
    let kept : WorkingSet := { columns := [⟨"kept", "Kept", .text⟩] }
    let here (files : Files) : Surroundings := { files, freshId := fun _ => "a" }
    let bare := ({} : Files).put ["kept.json"] (.file kept.save.toUTF8)
    let before := (run (here bare) ["--snapshot", "kept.json.tmp/x.json", "columns", "add", "D"]).desk.files
    let ending := run (here before) ["--snapshot", "new/../kept.json", "columns", "add", "Note"]
    let after := ending.desk.files
    let listed (files : Files) :=
      (run (here files) ["--snapshot", "new/../kept.json", "columns", "list"]).desk.out
    before.Rooted ∧ ending.code = 1 ∧
      before.read (.ofText "new/../kept.json") = .error .missing ∧
      after.read (.ofText "new/../kept.json") = .ok kept.save.toUTF8 ∧
      before.read (.ofText "kept.json") = .ok kept.save.toUTF8 ∧
      after.read (.ofText "kept.json") = .ok kept.save.toUTF8 ∧
      listed before = "No dynamic columns.\n" ∧
      listed after = "  kept                 Kept                 text\n" := by
  intro kept here bare before ending after listed
  have hreached : Files.Reached {} ([] ++ ["kept.json"]) :=
    (Files.Reached.of_all_isAbove rfl).concat rfl (by decide)
  have hbare : bare.Rooted := Files.rooted_empty.put hreached (by rintro ⟨⟩) _
  have hbefore : before.Rooted := @rooted_run (here bare) hbare _
  exact ⟨hbefore, by decide +kernel⟩

end Program

end Fieldbook
