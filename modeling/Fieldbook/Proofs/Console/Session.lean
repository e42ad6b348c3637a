import Fieldbook.Proofs.Command.Execute
import Fieldbook.Proofs.Console.Lines
import Fieldbook.Proofs.Console.Program
import Fieldbook.Proofs.Snapshot.RoundTrip

/-!
# A conversation and its lines one by one

A conversation keeps the working set in memory; whoever says its lines one by one has it loaded anew for each
of them. Both leave the same files (`Program.converse_files`), because after every line what is in memory and
what is in the files are abreast (`Abreast`). That can be so in three ways:

* there is no file, and nothing in memory that a command could change;
* what is in the file has the rows and columns of what is in memory;
* nothing can be saved any more, and so it does not matter what is in memory.

Saving leads from the second to the second or third, and from the others nowhere.
-/

namespace Fieldbook

/-! ## Loading -/

namespace WorkingSet

/-- Every number in a cell is read back from what is written of it. -/
def NumbersReadBack (set : WorkingSet) : Prop :=
  ∀ row ∈ set.rows, ∀ key x, row.cells.get? key = some (.number x) → x.ReadsBack

/-- What was kept of a sound working set is loaded with the same rows and columns. -/
theorem exists_load_save {set : WorkingSet} (h : set.Sound) (hnumbers : set.NumbersReadBack) :
    ∃ loaded, load set.save.toUTF8 = .ok loaded ∧ loaded.ledger = set.ledger := by
  obtain ⟨loaded, hloaded, hledger⟩ := ofSnapshot_snapshot h.tidy
  have hread : Snapshot.read? set.save.toUTF8 = some set.snapshot :=
    Snapshot.read?_text fun row hrow => hnumbers row (Array.mem_def.2 hrow)
  refine ⟨loaded, ?_, hledger⟩
  rw [load, hread]
  exact hloaded

/-- What a sentence leaves of a reachable working set is reachable. -/
theorem Reachable.run {set : WorkingSet} (h : Reachable set) (text : String) :
    Reachable (Command.run text set).1 :=
  h.execute (Command.parse text)

end WorkingSet

namespace Session

variable {files : Files} {snapshot : String} {set : WorkingSet}

/-- What is in memory after lines of a conversation. -/
def memory (set : WorkingSet) (lines : List String) : WorkingSet :=
  lines.foldl (fun set line => (Command.run (Text.edited line) set).1) set

theorem memory_nil (set : WorkingSet) : memory set [] = set := rfl

theorem memory_cons (set : WorkingSet) (line : String) (lines : List String) :
    memory set (line :: lines) = memory (Command.run (Text.edited line) set).1 lines := by
  rw [memory, List.foldl_cons]
  rfl

/-- The files after a command whose outcome is kept. -/
def kept (files : Files) (snapshot : String) (result : WorkingSet × Outcome) : Files :=
  if result.2.succeeded then (files.save (.ofText snapshot) result.1.save.toUTF8).1 else files

/-- A line after which the conversation goes on: its actions are performed, and the rest follows. -/
theorem converse_cons_of_stay {line : String} {after : WorkingSet} {actions : List Action}
    (h : turn snapshot set line = .stay after actions) (desk : Desk) (rest : List String) :
    converse snapshot set desk (line :: rest) =
      converse snapshot after (settle (settle desk [prompt]) actions) rest := by
  conv_lhs => unfold converse
  rw [h]

/-- What the files hold against what is in memory. -/
inductive Abreast (snapshot : String) : Files → WorkingSet → Prop where
  | absent {files : Files} (h : files.isPresent (.ofText snapshot) = false) :
      Abreast snapshot files .empty
  | same {files : Files} {set loaded : WorkingSet} {content : ByteArray}
      (hread : files.read (.ofText snapshot) = .ok content) (hload : WorkingSet.load content = .ok loaded)
      (hset : set.Reachable) (hledger : loaded.ledger = set.ledger) : Abreast snapshot files set
  | stuck {files : Files} {set loaded : WorkingSet} {content : ByteArray}
      (hread : files.read (.ofText snapshot) = .ok content) (hload : WorkingSet.load content = .ok loaded)
      (hstuck : ∃ e, ∀ content, files.save (.ofText snapshot) content = (files, some e)) :
      Abreast snapshot files set

/-- Where nothing can be saved nothing is kept. -/
theorem kept_of_stuck {e : FileError}
    (hstuck : ∀ content, files.save (.ofText snapshot) content = (files, some e))
    (result : WorkingSet × Outcome) : kept files snapshot result = files := by
  rw [kept]
  split
  · rw [hstuck]
  · rfl

/-- A command in an empty working set fails. -/
theorem run_empty (text : String) : ∃ why, Command.run text .empty = (.empty, .failed why) := by
  have hmeant : (Command.parse text).meant .empty = [] := rfl
  obtain ⟨why, -, hexecute⟩ := Command.execute_of_none hmeant
  exact ⟨why, hexecute⟩

/-- **A command leaves the files and the memory abreast**, whether it is carried out on what is in memory or
on what is in the files. -/
theorem Abreast.run (h : Abreast snapshot files set) (text : String)
    (hnumbers : (Command.run text set).1.NumbersReadBack) :
    Abreast snapshot (kept files snapshot (Command.run text set)) (Command.run text set).1 := by
  cases h with
  | absent h =>
    obtain ⟨why, hrun⟩ := run_empty text
    rw [hrun]
    exact .absent h
  | stuck hread hload hstuck =>
    obtain ⟨e, hsave⟩ := hstuck
    rw [kept_of_stuck hsave]
    exact .stuck hread hload ⟨e, hsave⟩
  | same hread hload hset hledger =>
    rw [kept]
    cases hsucceeded : (Command.run text set).2.succeeded with
    | false =>
      have hsame : (Command.run text set).1 = set := Command.execute_of_failed hsucceeded
      rw [if_neg Bool.false_ne_true, hsame]
      exact .same hread hload hset hledger
    | true =>
      rw [if_pos rfl]
      obtain ⟨e, hsave⟩ | hsave := Files.save_cases_of_read hread
      · rw [hsave]
        exact .stuck hread hload ⟨e, hsave⟩
      · have hafter := hset.run text
        obtain ⟨after, hsave⟩ := hsave (Command.run text set).1.save.toUTF8
        obtain ⟨reloaded, hreload, hreloaded⟩ := WorkingSet.exists_load_save hafter.sound hnumbers
        have hread' := Files.readIfPresent_eq_some_iff.1 (Files.readIfPresent_of_save hsave)
        rw [hsave]
        exact .same hread' hreload hafter hreloaded

end Session

/-! ## Lines one by one -/

namespace Plan

variable {found : Circumstances} {snapshot : String} {set : WorkingSet}

/-- What is loaded is empty without a file and else what the file holds. -/
theorem load_eq_ok_iff : load found snapshot = .ok set ↔
    (found.snapshot = .ok none ∧ set = .empty) ∨
      ∃ content, found.snapshot = .ok (some content) ∧ WorkingSet.load content = .ok set := by
  rw [load]
  split
  · next heq => simp [heq]
  · next heq => simp [heq, eq_comm]
  · next content heq =>
    rw [heq]
    cases hload : WorkingSet.load content with
    | error e => simp [Except.mapError, hload]
    | ok loaded => simp [Except.mapError, hload]

end Plan

namespace Program

open Session

variable {here : Surroundings} {files : Files} {snapshot text : String} {set : WorkingSet}

/-- The files after a sentence was said on its own. -/
def said (here : Surroundings) (snapshot : String) (files : Files) (text : String) : Files :=
  (invoke { here with files } ⟨snapshot, .run [text]⟩).desk.files

/-- What is loaded depends on the files only. -/
theorem load_look_eq_ok_iff {task : Task} :
    Plan.load (look { here with files } ⟨snapshot, task⟩) snapshot = .ok set ↔
      (files.isPresent (.ofText snapshot) = false ∧ set = .empty) ∨
        ∃ content, files.read (.ofText snapshot) = .ok content ∧ WorkingSet.load content = .ok set := by
  have hlook : (look { here with files } ⟨snapshot, task⟩).snapshot =
      files.readIfPresent (.ofText snapshot) := rfl
  rw [Plan.load_eq_ok_iff, hlook]
  simp only [Files.readIfPresent_eq_none_iff, Files.readIfPresent_eq_some_iff]

/-- A sentence on its own is carried out on what is loaded and kept if it succeeded. -/
theorem said_of_load
    (hload : Plan.load (look { here with files } ⟨snapshot, .run [text]⟩) snapshot = .ok set) :
    said here snapshot files text = kept files snapshot (Command.run text set) := by
  have hplan : Plan.ofInvocation (look { here with files } ⟨snapshot, .run [text]⟩)
      ⟨snapshot, .run [text]⟩ = .act (Task.runActions snapshot set [text]) := by
    rw [Plan.ofInvocation, hload]
    rfl
  rw [said, invoke_of_act hplan, files_finish, Task.runActions, String.intercalate_singleton]
  generalize Command.run text set = result
  obtain ⟨after, outcome⟩ := result
  exact Action.files_performAll_afterCommand _ snapshot after outcome _

/-- While they are abreast, what a sentence does to the files does not depend on what it is carried out on. -/
theorem said_of_abreast (h : Abreast snapshot files set) (text : String) :
    said here snapshot files text = kept files snapshot (Command.run text set) := by
  cases h with
  | absent h => exact said_of_load (load_look_eq_ok_iff.2 (.inl ⟨h, rfl⟩))
  | stuck hread hload hstuck =>
    obtain ⟨e, hsave⟩ := hstuck
    rw [said_of_load (load_look_eq_ok_iff.2 (.inr ⟨_, hread, hload⟩)), kept_of_stuck hsave,
      kept_of_stuck hsave]
  | same hread hload hset hledger =>
    obtain ⟨houtcome, hafter⟩ := Command.execute_congr hset.sound.indexed
      (WorkingSet.Reachable.of_load hload).sound.indexed hledger (Command.parse text)
    rw [said_of_load (load_look_eq_ok_iff.2 (.inr ⟨_, hread, hload⟩)), kept, kept, Command.run, houtcome,
      WorkingSet.save_congr hafter, Command.run]

/-- **A conversation leaves the files that its lines leave one by one.** -/
theorem files_converse {lines : List String} {desk : Desk} (h : Abreast snapshot desk.files set)
    (hstay : ∀ line ∈ lines, Stays line)
    (hnumbers : ∀ front, front <+: lines → (memory set front).NumbersReadBack) :
    (converse snapshot set desk lines).files =
      lines.foldl (fun files line => said here snapshot files (Text.edited line)) desk.files := by
  induction lines generalizing set desk with
  | nil =>
    unfold converse
    exact files_settle _ _
  | cons line rest ih =>
    obtain ⟨actions, hturn, hkept, hspoken⟩ :=
      @exists_turn snapshot line set (hstay line List.mem_cons_self)
    have hprompt : (settle desk [prompt]).files = desk.files := files_settle _ _
    have hfiles : (settle (settle desk [prompt]) actions).files =
        kept desk.files snapshot (Command.run (Text.edited line) set) := by
      rw [files_settle, kept, ← hprompt]
      cases hsucceeded : (Command.run (Text.edited line) set).2.succeeded with
      | true => rw [hkept hsucceeded, Action.files_performAll_afterCommand, hsucceeded]
      | false =>
        rw [Action.files_performAll (hspoken hsucceeded)]
        rfl
    have hfirst := hnumbers [line] (List.prefix_append [line] rest)
    rw [memory_cons, memory_nil] at hfirst
    have hnext := h.run (Text.edited line) hfirst
    rw [← hfiles] at hnext
    have hlater : ∀ front, front <+: rest →
        (memory (Command.run (Text.edited line) set).1 front).NumbersReadBack := by
      intro front hfront
      rw [← memory_cons]
      exact hnumbers (line :: front) (List.cons_prefix_cons.2 ⟨rfl, hfront⟩)
    rw [converse_cons_of_stay hturn, ih hnext (fun l hl => hstay l (List.mem_cons_of_mem _ hl)) hlater,
      List.foldl_cons, hfiles, said_of_abreast h]

/-- What was loaded is abreast of the files that it was loaded from. -/
theorem abreast_of_load {task : Task}
    (h : Plan.load (look { here with files } ⟨snapshot, task⟩) snapshot = .ok set) :
    Abreast snapshot files set := by
  obtain ⟨habsent, rfl⟩ | ⟨content, hread, hload⟩ := load_look_eq_ok_iff.1 h
  · exact .absent habsent
  · exact .same hread hload (.of_load hload) rfl

theorem invoke_of_converse {invocation : Invocation}
    (h : Plan.ofInvocation (look here invocation) invocation = .converse set) :
    (invoke here invocation).desk =
      converse invocation.snapshot set (settle { files := here.files } [greeting set])
        (Session.lines here.input) := by
  unfold invoke
  rw [h]

/-- A conversation begins with what was loaded and the files that it was loaded from. -/
theorem exists_invoke_converse {lines : List String}
    (hload : Plan.load (look here ⟨snapshot, .converse⟩) snapshot = .ok set)
    (hlines : ∀ line ∈ lines, '\n' ∉ line.toList) :
    ∃ desk : Desk, desk.files = here.files ∧
      (invoke { here with input := typed lines } ⟨snapshot, .converse⟩).desk =
        converse snapshot set desk lines := by
  have hload' : Plan.load (look { here with input := typed lines } ⟨snapshot, .converse⟩) snapshot =
      .ok set := hload
  have hplan : Plan.ofInvocation (look { here with input := typed lines } ⟨snapshot, .converse⟩)
      ⟨snapshot, .converse⟩ = .converse set := by
    rw [Plan.ofInvocation, hload']
    rfl
  refine ⟨settle { files := here.files } [greeting set], files_settle _ _, ?_⟩
  rw [invoke_of_converse hplan, lines_typed hlines]

/-- **A conversation leaves the files that its lines leave when each is said on its own**, to a program that
loads the working set, carries the line out and keeps the working set only if that succeeded. The backspaces
in the lines are carried out first, and none of them ends the conversation. Lines without backspaces are said
as they stand. -/
theorem converse_files {lines : List String}
    (hload : Plan.load (look here ⟨snapshot, .converse⟩) snapshot = .ok set)
    (hlines : ∀ line ∈ lines, '\n' ∉ line.toList)
    (hstay : ∀ line ∈ lines, Stays line)
    (hnumbers : ∀ front, front <+: lines → (memory set front).NumbersReadBack) :
    let left := (invoke { here with input := typed lines } ⟨snapshot, .converse⟩).desk.files
    left =
        lines.foldl
          (fun files line => (invoke { here with files } ⟨snapshot, .run [Text.edited line]⟩).desk.files)
          here.files ∧
      ((∀ line ∈ lines, '\x08' ∉ line.toList) →
        left =
          lines.foldl (fun files line => (invoke { here with files } ⟨snapshot, .run [line]⟩).desk.files)
            here.files) := by
  intro left
  obtain ⟨desk, hfiles, hdesk⟩ := exists_invoke_converse hload hlines
  have habreast : Abreast snapshot desk.files set := hfiles ▸ abreast_of_load hload
  have hleft : left =
      lines.foldl (fun files line => said here snapshot files (Text.edited line)) here.files := by
    rw [← hfiles, ← files_converse habreast hstay hnumbers, ← hdesk]
  refine ⟨hleft, fun hplain => hleft.trans (List.foldl_ext _ _ _ fun files line hline => ?_)⟩
  rw [Text.edited_of_not_mem (hplain line hline)]
  rfl

/-! ### A line with a backspace -/

/-- A row without cells. -/
def lone : Row := { id := "a", name := "ab" }

/-- The working set of one row. -/
def loneSet : WorkingSet := (WorkingSet.empty.operate (.append [lone])).1

/-- A file with the one row. -/
def loneFiles : Files := ({} : Files).put ["b.json"] (.file loneSet.save.toUTF8)

/-- A program beside that file. -/
def loneHere : Surroundings := { files := loneFiles, freshId := fun _ => "a" }

/-- A sentence about the one row. -/
def remark : String := "delete where name is ab"

/-- A sentence about rows that there are none of, unless its backspace is carried out. -/
def slip : String := "delete where name is abc\x08"

theorem ledger_loneSet : loneSet.ledger = ⟨[lone], []⟩ := by
  have hledger := (WorkingSet.follows_operate WorkingSet.indexed_empty (.append [lone])).ledger_eq
  exact hledger.trans (by decide)

theorem reachable_loneSet : loneSet.Reachable := WorkingSet.Reachable.empty.operate (.append [lone])

theorem edited_slip : Text.edited slip = remark := by decide +kernel

theorem numbersReadBack_of_rows {set : WorkingSet} (h : ∀ row ∈ set.rows.toList, row = lone) :
    set.NumbersReadBack := by
  intro row hrow key x hx
  rw [h row (Array.mem_def.1 hrow)] at hx
  cases hx

theorem read_loneFiles : loneFiles.read (.ofText "b.json") = .ok loneSet.save.toUTF8 := by
  have hplain : ({} : Files).lookup? ["b.json"] ≠ some .directory := by
    rintro ⟨⟩
  exact Files.read_eq_ok (by decide +kernel) (Files.lookup?_put_of_ne_directory hplain)

/-- The sentence removes the one row. -/
theorem run_remark {set : WorkingSet} (hset : set.Reachable) (hledger : set.ledger = loneSet.ledger) :
    (Command.run remark set).1.ledger = ⟨[], []⟩ ∧ (Command.run remark set).2.succeeded = true := by
  have hparse : Command.parse remark = .delete ⟨.name, .text "ab"⟩ := by decide +kernel
  have hset' : set.ledger = ⟨[lone], []⟩ := hledger.trans ledger_loneSet
  have hrows : set.rows.toList = [lone] := congrArg Ledger.rows hset'
  have hcolumns : set.columns = [] := congrArg Ledger.columns hset'
  have hmeant : set.rows.toList.filter (⟨.name, .text "ab"⟩ : Condition).selects ≠ [] := by
    rw [hrows]
    decide +kernel
  obtain ⟨hafter, houtcome⟩ := Command.execute_delete hset.sound hmeant
  rw [Command.run, hparse, hafter, houtcome, hrows, hcolumns]
  exact ⟨by decide +kernel, rfl⟩

/-- Carried out as it stands, the slip finds no row. -/
theorem run_slip : ∃ why, Command.run slip loneSet = (loneSet, .failed why) := by
  have hparse : Command.parse slip = .delete ⟨.name, .text "abc\x08"⟩ := by decide +kernel
  have hrows : loneSet.rows.toList = [lone] := congrArg Ledger.rows ledger_loneSet
  have hmeant : (Command.parse slip).meant loneSet = [] := by
    rw [hparse, Command.meant, hrows]
    decide +kernel
  obtain ⟨why, -, hexecute⟩ := Command.execute_of_none hmeant
  exact ⟨why, hexecute⟩

theorem newline_not_mem_slip : ∀ line ∈ [slip], '\n' ∉ line.toList := by decide

theorem numbersReadBack_of_ledger (hledger : set.ledger = loneSet.ledger) : set.NumbersReadBack := by
  refine numbersReadBack_of_rows fun row hrow => ?_
  have hrows : set.rows.toList = [lone] := congrArg Ledger.rows (hledger.trans ledger_loneSet)
  exact List.mem_singleton.1 (hrows ▸ hrow)

/-- The one row is loaded from the file. -/
theorem load_loneFiles (task : Task) :
    ∃ set, Plan.load (look loneHere ⟨"b.json", task⟩) "b.json" = .ok set ∧
      set.ledger = loneSet.ledger ∧ set.Reachable := by
  obtain ⟨loaded, hloaded, hledger⟩ :=
    WorkingSet.exists_load_save reachable_loneSet.sound (numbersReadBack_of_ledger rfl)
  have hload := (@load_look_eq_ok_iff loneHere loneFiles "b.json" loaded task).2
    (.inr ⟨_, read_loneFiles, hloaded⟩)
  exact ⟨loaded, hload, hledger, .of_load hloaded⟩

theorem numbersReadBack_run (hset : set.Reachable) (hledger : set.ledger = loneSet.ledger) :
    (Command.run remark set).1.NumbersReadBack := by
  refine numbersReadBack_of_rows fun row hrow => ?_
  have hrows : (Command.run remark set).1.rows.toList = [] :=
    congrArg Ledger.rows (run_remark hset hledger).1
  rw [hrows] at hrow
  cases hrow

/-- Neither the sentence nor what comes to it ends the conversation. -/
theorem stays_of_edited_eq {line : String} (hline : Text.edited line = remark) :
    ∀ l ∈ [line], Stays l := by
  intro l hl
  rw [List.mem_singleton.1 hl, Stays, hline]
  decide +kernel

theorem numbersReadBack_memory {line : String} (hline : Text.edited line = remark) (hset : set.Reachable)
    (hledger : set.ledger = loneSet.ledger) :
    ∀ front, front <+: [line] → (memory set front).NumbersReadBack := by
  intro front hfront
  cases front with
  | nil => exact numbersReadBack_of_ledger hledger
  | cons l front =>
    obtain ⟨rfl, hnil⟩ := List.cons_prefix_cons.1 hfront
    rw [List.prefix_nil.1 hnil, memory_cons, memory_nil, hline]
    exact numbersReadBack_run hset hledger

/-- A conversation of one line, and its line with the backspace carried out; and one of that line as it
stands. -/
theorem converse_files_edited :
    (invoke { loneHere with input := typed [slip] } ⟨"b.json", .converse⟩).desk.files =
        (invoke loneHere ⟨"b.json", .run [remark]⟩).desk.files ∧
      (invoke { loneHere with input := typed [remark] } ⟨"b.json", .converse⟩).desk.files =
        (invoke loneHere ⟨"b.json", .run [remark]⟩).desk.files := by
  obtain ⟨set, hload, hledger, hset⟩ := load_loneFiles .converse
  have hremark : Text.edited remark = remark := Text.edited_of_not_mem (by decide)
  obtain ⟨hslip, -⟩ := converse_files hload newline_not_mem_slip (stays_of_edited_eq edited_slip)
    (numbersReadBack_memory edited_slip hset hledger)
  obtain ⟨-, hplain⟩ := converse_files hload (by decide) (stays_of_edited_eq hremark)
    (numbersReadBack_memory hremark hset hledger)
  rw [List.foldl_cons, List.foldl_nil, edited_slip] at hslip
  exact ⟨hslip, hplain (by decide)⟩

/-- A conversation does not leave what its lines leave as they stand: it carries out the backspace, and
removes a row. -/
theorem converse_files_slip :
    (∃ set, Plan.load (look loneHere ⟨"b.json", .converse⟩) "b.json" = .ok set ∧
        set.rows.toList = [lone]) ∧
      '\n' ∉ slip.toList ∧ Text.trim slip ≠ "exit" ∧ Text.trim slip ≠ "quit" ∧
      (invoke { loneHere with input := typed [slip] } ⟨"b.json", .converse⟩).desk.files.read
          (.ofText "b.json") ≠
        (invoke loneHere ⟨"b.json", .run [slip]⟩).desk.files.read (.ofText "b.json") := by
  obtain ⟨set, hload, hledger, hset⟩ := load_loneFiles .converse
  have hrows : set.rows.toList = [lone] := congrArg Ledger.rows (hledger.trans ledger_loneSet)
  refine ⟨⟨set, hload, hrows⟩, by decide, by decide +kernel, by decide +kernel, ?_⟩
  have habreast : Abreast "b.json" loneHere.files set := @abreast_of_load loneHere _ _ _ _ hload
  -- The line as it stands leaves the file of the one row.
  obtain ⟨loaded, hloaded, hloadedLedger⟩ :=
    WorkingSet.exists_load_save reachable_loneSet.sound (numbersReadBack_of_ledger rfl)
  have hlone : Abreast "b.json" loneHere.files loneSet :=
    .same read_loneFiles hloaded reachable_loneSet hloadedLedger
  have hsaid : said loneHere "b.json" loneHere.files slip = loneFiles := by
    obtain ⟨why, hrun⟩ := run_slip
    rw [said_of_abreast hlone, hrun]
    rfl
  -- The conversation leaves a file without rows.
  obtain ⟨hafter, hsucceeded⟩ := run_remark hset hledger
  obtain ⟨e, hsave⟩ | hsave := Files.save_cases_of_read read_loneFiles
  · have hworks : (loneFiles.save (.ofText "b.json") .empty).2 = none := by decide +kernel
    rw [hsave] at hworks
    cases hworks
  · obtain ⟨after, hsave⟩ := hsave (Command.run remark set).1.save.toUTF8
    have hconverse :
        (invoke { loneHere with input := typed [slip] } ⟨"b.json", .converse⟩).desk.files = after := by
      obtain ⟨desk, hfiles, hdesk⟩ := exists_invoke_converse hload newline_not_mem_slip
      have habreast' : Abreast "b.json" desk.files set := hfiles ▸ habreast
      rw [hdesk, @files_converse loneHere _ _ _ _ habreast' (stays_of_edited_eq edited_slip)
        (numbersReadBack_memory edited_slip hset hledger), List.foldl_cons, List.foldl_nil, edited_slip,
        said_of_abreast habreast', hfiles, kept, if_pos hsucceeded]
      exact congrArg Prod.fst hsave
    have hread := Files.readIfPresent_eq_some_iff.1 (Files.readIfPresent_of_save hsave)
    have hrun : (invoke loneHere ⟨"b.json", .run [slip]⟩).desk.files = loneFiles := hsaid
    rw [hconverse, hread, hrun, read_loneFiles]
    intro heq
    obtain ⟨reloaded, hreloaded, hreloadedLedger⟩ :=
      WorkingSet.exists_load_save (hset.run remark).sound (numbersReadBack_run hset hledger)
    rw [Except.ok.inj heq, hloaded] at hreloaded
    have hsame : loaded = reloaded := Except.ok.inj hreloaded
    rw [← hsame, hloadedLedger, hafter, ledger_loneSet] at hreloadedLedger
    cases hreloadedLedger

end Program

end Fieldbook
