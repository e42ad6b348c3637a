import Fieldbook.Proofs.Files

/-!
# What a failed request leaves

Whether a file can be saved over one that is there does not depend on the content, and a save that fails
leaves the tree as it was (`save_cases`). A save where no file is can fail halfway: directories that were
missing may have been made by then, but nothing else (`AddsDirectories`). Either way the file is spared
(`spares_of_failed_save`), and a file that such a save seems to have brought up was there before, unless its
path leaves a directory that was missing (`read_of_read_failed_save`).
-/

namespace Fieldbook

namespace Files

variable {files after middle : Files} {path : Path} {place target : Place} {content : ByteArray}

/-- What is read is the content of the file that the path leads to. -/
theorem read_eq_ok_iff : files.read path = .ok content ↔
    ∃ place, files.locate path = .ok place ∧ files.lookup? place = some (.file content) := by
  refine ⟨fun h => ?_, fun ⟨place, hlocate, hfile⟩ => read_eq_ok hlocate hfile⟩
  obtain ⟨place, hlocate, h⟩ := exists_of_bind_eq_ok h
  split at h
  · next hfile =>
    obtain rfl := Except.ok.inj h
    exact ⟨place, hlocate, hfile⟩
  · cases h
  · cases h

theorem readIfPresent_eq_some_iff :
    files.readIfPresent path = .ok (some content) ↔ files.read path = .ok content := by
  refine ⟨fun h => ?_, readIfPresent_of_read⟩
  rw [readIfPresent] at h
  split at h
  · cases hread : files.read path with
    | error e =>
      rw [hread] at h
      cases h
    | ok read =>
      rw [hread] at h
      cases h
      rfl
  · cases h

theorem readIfPresent_eq_none_iff :
    files.readIfPresent path = .ok none ↔ files.isPresent path = false := by
  rw [readIfPresent]
  cases files.isPresent path with
  | false => exact iff_of_true rfl rfl
  | true =>
    refine iff_of_false (fun h => ?_) (by decide)
    rw [if_pos rfl] at h
    cases hread : files.read path with
    | error e =>
      rw [hread] at h
      cases h
    | ok read =>
      rw [hread] at h
      cases h

/-- A path is to a directory if there is one where it leads. -/
theorem isDirectory_iff : files.isDirectory path = true ↔
    ∃ place, files.locate path = .ok place ∧ files.lookup? place = some .directory := by
  rw [isDirectory]
  cases files.locate path with
  | error e => simp [Except.map]
  | ok place =>
    simp only [Except.map, Except.ok.injEq, exists_eq_left']
    split
    · next heq => simpa using heq
    · next hne => simpa using hne

/-! ## Saving over a file -/

theorem ensureDirectory_of_isDirectory (h : files.isDirectory path = true) :
    files.ensureDirectory path = .ok files := by
  obtain ⟨place, hlocate, hdirectory⟩ := isDirectory_iff.1 h
  have hmake : files.makeDirectory path = .error .occupied := by
    rw [makeDirectory, hlocate]
    simp only [bind, Except.bind, hdirectory]
  rw [ensureDirectory, hmake]
  exact if_pos h

/-- Nothing is made where there is a directory already. -/
theorem makeParts_of_isDirectory {fromRoot : Bool} {parts : List String}
    (h : files.isDirectory ⟨fromRoot, parts.reverse⟩ = true) :
    files.makeParts fromRoot parts = (files, none) := by
  induction parts with
  | nil => rfl
  | cons part before ih =>
    cases hidle : Path.isIdle part with
    | true =>
      rw [makeParts, if_pos hidle]
      apply ih
      rw [List.reverse_cons] at h
      obtain ⟨place, hlocate, hdirectory⟩ := isDirectory_iff.1 h
      obtain ⟨hfits, hwalk⟩ := locate_eq_ok.1 hlocate
      obtain ⟨before, hbefore, hpart⟩ := walk_append_eq_ok.1 hwalk
      obtain rfl : place = before := walk_idle (by simpa using hidle) hpart
      exact isDirectory_iff.2
        ⟨place, locate_eq_ok.2 ⟨Path.isTooLong_front hfits, hbefore⟩, hdirectory⟩
    | false =>
      rw [makeParts, if_neg (by simp [hidle])]
      simp only [ensureDirectory_of_isDirectory h]

/-- Nothing is made where a directory is. -/
theorem makeDirectories_of_isDirectory (h : files.isDirectory path = true) :
    files.makeDirectories path = (files, none) :=
  makeParts_of_isDirectory (by rwa [List.reverse_reverse])

/-- Whether something can be written does not depend on what is written. -/
theorem write_cases (files : Files) (path : Path) :
    (∃ e, ∀ content, files.write path content = .error e) ∨
      ∃ place, files.locate path = .ok place ∧ files.lookup? place ≠ some .directory ∧
        ∀ content, files.write path content = .ok (files.put place (.file content)) := by
  unfold write
  split
  · exact .inl ⟨_, fun _ => rfl⟩
  · split
    · cases files.locate path.surrounding with
      | error e => exact .inl ⟨e, fun _ => rfl⟩
      | ok place => exact .inl ⟨.isDirectory, fun _ => rfl⟩
    · cases files.locate path with
      | error e => exact .inl ⟨e, fun _ => rfl⟩
      | ok place =>
        simp only [bind, Except.bind]
        split
        · exact .inl ⟨.isDirectory, fun _ => rfl⟩
        · next hne => exact .inr ⟨place, rfl, hne, fun _ => rfl⟩

/-- A name is looked up where it was as long as the directories stay. -/
theorem KeepsDirectories.into (h : files.KeepsDirectories after) {front : List String} {name : String}
    (hinto : files.Into path front place name) : after.Into path front place name :=
  { hinto with leads := h.walk hinto.leads, within := h place hinto.within }

namespace Into

variable {front : List String} {name : String}

theorem isDirectory_folder (h : files.Into path front place name) :
    files.isDirectory path.folder = true :=
  isDirectory_iff.2 ⟨place, h.locate_folder, h.within⟩

/-- A file can be moved to any name in a directory that is not a directory's. -/
theorem moveFile (h : files.Into path front place name)
    (hfree : files.lookup? (place ++ [name]) ≠ some .directory) {source : Path} {origin : Place}
    (horigin : files.locate source = .ok origin) (hfile : files.lookup? origin = some (.file content)) :
    files.moveFile source path =
      .ok ((files.remove origin).put (place ++ [name]) (.file content)) := by
  have hlast : path.lastPart? = some name := by
    rw [Path.lastPart?, h.withoutSlashes_eq, h.parts_eq, List.getLast?_concat]
  have hname : ¬ (name == "." || name == "..") = true := by
    have hdot : name ≠ "." := by
      rintro rfl
      exact absurd h.proper (by decide)
    simp [hdot, h.forward]
  rw [Files.moveFile, h.fits, if_neg Bool.false_ne_true, horigin, h.locate_surrounding, h.withoutSlashes_eq,
    h.locate, hlast]
  simp only [bind, Except.bind, Option.all_some, if_neg hname, hfile, if_neg h.not_endsInSlash]

/-- **Whether a file can be saved does not depend on the content, and when it cannot be, nothing has
changed.** -/
theorem save_cases (h : files.Into path front place name)
    (hfree : files.lookup? (place ++ [name]) ≠ some .directory) :
    (∃ e, ∀ content, files.save path content = (files, some e)) ∨
      ∀ content, ∃ after, files.save path content = (after, none) := by
  have hfolder := makeDirectories_of_isDirectory h.isDirectory_folder
  obtain ⟨e, hwrite⟩ | ⟨draft, hdraft, hplain, hwrite⟩ := write_cases files path.draft
  · refine .inl ⟨e, fun content => ?_⟩
    simp only [save, hfolder, hwrite]
  · refine .inr fun content => ?_
    have hkeeps : files.KeepsDirectories (files.put draft (.file content)) :=
      keepsDirectories_put hplain _
    have hwritten : (files.put draft (.file content)).lookup? draft = some (.file content) :=
      lookup?_put_of_ne_directory hplain
    have hstill : (files.put draft (.file content)).lookup? (place ++ [name]) ≠ some .directory := by
      by_cases heq : place ++ [name] = draft
      · rw [heq, hwritten]
        rintro ⟨⟩
      · rwa [lookup?_put_of_ne heq]
    have hmove := (hkeeps.into h).moveFile hstill (hkeeps.locate hdraft) hwritten
    exact ⟨_, by simp only [save, hfolder, hwrite, hmove]; rfl⟩

end Into

/-- A file that can be read can be saved over, or it cannot be and nothing changes. -/
theorem save_cases_of_read (h : files.read path = .ok content) :
    (∃ e, ∀ content, files.save path content = (files, some e)) ∨
      ∀ content, ∃ after, files.save path content = (after, none) := by
  obtain ⟨place, hlocate, hfile⟩ := read_eq_ok_iff.1 h
  have hfree : files.lookup? place ≠ some .directory := by
    rw [hfile]
    rintro ⟨⟩
  obtain ⟨front, within, name, hinto, rfl⟩ := exists_into hlocate hfree
  exact hinto.save_cases hfree

/-! ## Making directories -/

/-- Directories were made where nothing was, and nothing else has changed. -/
def AddsDirectories (files after : Files) : Prop :=
  ∀ place, after.lookup? place = files.lookup? place ∨
    files.lookup? place = none ∧ after.lookup? place = some .directory

theorem AddsDirectories.refl (files : Files) : files.AddsDirectories files := fun _ => .inl rfl

theorem AddsDirectories.trans (h : files.AddsDirectories middle) (h' : middle.AddsDirectories after) :
    files.AddsDirectories after := by
  intro place
  obtain heq' | ⟨hnone', hmade'⟩ := h' place
  · rw [heq']
    exact h place
  · obtain heq | ⟨-, hmade⟩ := h place
    · exact .inr ⟨heq.symm.trans hnone', hmade'⟩
    · rw [hmade] at hnone'
      cases hnone'

theorem AddsDirectories.keepsDirectories (h : files.AddsDirectories after) :
    files.KeepsDirectories after := by
  intro place hdirectory
  obtain heq | ⟨-, hmade⟩ := h place
  · rw [heq, hdirectory]
  · exact hmade

theorem addsDirectories_makeDirectory (h : files.makeDirectory path = .ok after) :
    files.AddsDirectories after := by
  obtain ⟨made, -, h⟩ := exists_of_bind_eq_ok h
  split at h
  · cases h
  · next hnone =>
    obtain rfl := Except.ok.inj h
    intro place
    by_cases heq : place = made
    · subst heq
      have hplain : files.lookup? place ≠ some .directory := by
        rw [hnone]
        rintro ⟨⟩
      exact .inr ⟨hnone, lookup?_put_of_ne_directory hplain⟩
    · exact .inl (lookup?_put_of_ne heq)

/-- What a directory that is made keeps is kept where one is made if there is none. -/
theorem ensureDirectory_induction {Keeps : Files → Prop}
    (hmake : ∀ {files path after}, Keeps files → makeDirectory files path = .ok after → Keeps after)
    (h : Keeps files) (hensure : files.ensureDirectory path = .ok after) : Keeps after := by
  rw [ensureDirectory] at hensure
  split at hensure
  · next hmade =>
    obtain rfl := Except.ok.inj hensure
    exact hmake h hmade
  · split at hensure
    · obtain rfl := Except.ok.inj hensure
      exact h
    · cases hensure

/-- **What every directory that is made keeps is kept by making a directory and those it is in**, whether it
works or fails halfway. -/
theorem makeParts_induction {Keeps : Files → Prop}
    (hmake : ∀ {files path after}, Keeps files → makeDirectory files path = .ok after → Keeps after)
    (h : Keeps files) (fromRoot : Bool) (parts : List String) :
    Keeps (files.makeParts fromRoot parts).1 := by
  induction parts with
  | nil => exact h
  | cons part before ih =>
    rw [makeParts]
    split
    · exact ih
    · dsimp only
      split
      · next hensure => exact ensureDirectory_induction hmake h hensure
      · split
        · next hbefore =>
          rw [hbefore] at ih
          exact ih
        · next hbefore =>
          rw [hbefore] at ih
          split
          · next hensure => exact ensureDirectory_induction hmake ih hensure
          · exact ih
      · exact h

/-- Making a directory and those it is in adds directories and nothing else. -/
theorem addsDirectories_makeDirectories (files : Files) (path : Path) :
    files.AddsDirectories (files.makeDirectories path).1 :=
  makeParts_induction (fun h hmake => h.trans (addsDirectories_makeDirectory hmake)) (.refl files) _ _

/-! ## Saving where no file is -/

/-- Whatever there is lies in directories that are there. -/
def Rooted (files : Files) : Prop :=
  ∀ place front, files.lookup? place ≠ none → front <+: place → front ≠ place →
    files.lookup? front = some .directory

/-- Without files there is nothing that could lie outside of a directory. -/
theorem rooted_empty : Rooted {} := by
  intro place front hplace hfront _
  have habove : place.all Place.isAbove = true := by
    by_contra hnot
    exact hplace (if_neg hnot)
  obtain ⟨rest, rfl⟩ := hfront
  rw [List.all_append, Bool.and_eq_true] at habove
  exact lookup?_of_all_isAbove habove.1

/-- What is put where no directory is, in directories that are there. -/
theorem Rooted.put (h : files.Rooted) (hreached : Reached files place)
    (hplain : files.lookup? place ≠ some .directory) (entry : Entry) : (files.put place entry).Rooted := by
  intro p front hp hfront hne
  have hdirectory : files.lookup? front = some .directory := by
    by_cases heq : p = place
    · subst heq
      exact hreached.directories front hfront hne
    · rw [lookup?_put_of_ne heq] at hp
      exact h p front hp hfront hne
  exact keepsDirectories_put hplain entry front hdirectory

/-- A walk that does not go up leads on from where it begins. -/
theorem prefix_of_walk {parts : List String} (hup : ".." ∉ parts)
    (h : files.walk place parts = .ok target) : place <+: target := by
  induction parts generalizing place with
  | nil => exact Except.ok.inj h ▸ List.prefix_refl place
  | cons part rest ih =>
    obtain ⟨-, -, hrest⟩ := walk_cons_eq_ok.1 h
    have hpart : place <+: place.enter part := by
      cases hidle : Path.isIdle part with
      | true => exact (Place.enter_idle hidle place).symm ▸ List.prefix_refl place
      | false =>
        rw [Place.enter_name hidle fun heq => hup (heq ▸ List.mem_cons_self)]
        exact List.prefix_append place [part]
    exact hpart.trans (ih (fun hmem => hup (List.mem_cons_of_mem _ hmem)) hrest)

/-- What was there before directories were made is reached as before by a walk that does not go up. -/
theorem AddsDirectories.walk_of_walk (h : files.AddsDirectories after) (hrooted : files.Rooted)
    {parts : List String} (hup : ".." ∉ parts) (htarget : files.lookup? target ≠ none)
    (hwalk : after.walk place parts = .ok target) : files.walk place parts = .ok target := by
  induction parts generalizing place with
  | nil => exact hwalk
  | cons part rest ih =>
    have hprefix : place <+: target := prefix_of_walk hup hwalk
    obtain ⟨hdirectory, hsize, hrest⟩ := walk_cons_eq_ok.1 hwalk
    refine walk_cons_eq_ok.2 ⟨?_, hsize, ih (fun hmem => hup (List.mem_cons_of_mem _ hmem)) hrest⟩
    by_cases heq : place = target
    · subst heq
      obtain hsame | ⟨hnone, -⟩ := h place
      · rw [← hsame, hdirectory]
      · exact absurd hnone htarget
    · exact hrooted target place htarget hprefix heq

/-- The directories that a path leaves by two dots are there. -/
def LeavesPresent (files : Files) (path : Path) : Prop :=
  ∀ front rest, path.parts = front ++ ".." :: rest →
    files.isDirectory ⟨path.fromRoot, front⟩ = true

/-- A path without two dots leaves no directory. -/
theorem leavesPresent_of_not_mem (h : ".." ∉ path.parts) : files.LeavesPresent path := by
  intro front rest hparts
  rw [hparts] at h
  exact absurd (List.mem_append_right front List.mem_cons_self) h

/-- Making directories brings no file up. -/
theorem AddsDirectories.read_of_read (h : files.AddsDirectories after) (hrooted : files.Rooted)
    (hpresent : files.LeavesPresent path) (hread : after.read path = .ok content) :
    files.read path = .ok content := by
  obtain ⟨target, hlocate, hafter⟩ := read_eq_ok_iff.1 hread
  obtain ⟨hfits, hwalk⟩ := locate_eq_ok.1 hlocate
  have hfile : files.lookup? target = some (.file content) := by
    obtain hsame | ⟨-, hmade⟩ := h target
    · rw [← hsame, hafter]
    · rw [hafter] at hmade
      cases hmade
  have htarget : files.lookup? target ≠ none := by
    rw [hfile]
    rintro ⟨⟩
  refine read_eq_ok (locate_eq_ok.2 ⟨hfits, ?_⟩) hfile
  by_cases hup : ".." ∈ path.parts
  · obtain ⟨rest, front, hreverse, hlast⟩ := List.eq_append_cons_of_mem (List.mem_reverse.2 hup)
    have hparts : path.parts = front.reverse ++ ".." :: rest.reverse := by
      rw [← List.reverse_reverse path.parts, hreverse]
      simp
    obtain ⟨left, hleft, hdirectory⟩ := isDirectory_iff.1 (hpresent _ _ hparts)
    have hfront : files.walk (Place.start path) front.reverse = .ok left := (locate_eq_ok.1 hleft).2
    rw [hparts] at hwalk ⊢
    obtain ⟨left', hfront', hrest⟩ := walk_append_eq_ok.1 hwalk
    obtain rfl : left = left' := Except.ok.inj ((h.keepsDirectories.walk hfront).symm.trans hfront')
    obtain ⟨-, hsize, hrest⟩ := walk_cons_eq_ok.1 hrest
    have hon := h.walk_of_walk hrooted (fun hmem => hlast (List.mem_reverse.1 hmem)) htarget hrest
    exact walk_append_eq_ok.2 ⟨left, hfront, walk_cons_eq_ok.2 ⟨hdirectory, hsize, hon⟩⟩
  · exact h.walk_of_walk hrooted hup htarget hwalk

/-- A file that is there after a save under its path failed has not been touched, and only directories have
been made. -/
theorem addsDirectories_of_failed_save {saved : ByteArray} {e : FileError}
    (h : files.save path saved = (after, some e)) (hread : after.read path = .ok content) :
    files.AddsDirectories after := by
  have hfolder := addsDirectories_makeDirectories files path.folder
  rw [save] at h
  split at h
  · next hmake =>
    obtain ⟨rfl, -⟩ := Prod.mk.inj h
    rw [hmake] at hfolder
    exact hfolder
  · next made hmake =>
    rw [hmake] at hfolder
    obtain ⟨e', hwrite⟩ | ⟨draft, hdraft, hplain, hwrite⟩ := write_cases made path.draft
    · simp only [hwrite] at h
      obtain ⟨rfl, -⟩ := Prod.mk.inj h
      exact hfolder
    · simp only [hwrite] at h
      split at h
      · next hmove =>
        obtain ⟨rfl, -⟩ := Prod.mk.inj h
        -- the file could have been moved to the path
        obtain ⟨target, hlocate, hfile⟩ := read_eq_ok_iff.1 hread
        have hfree : (made.put draft (.file saved)).lookup? target ≠ some .directory := by
          rw [hfile]
          rintro ⟨⟩
        obtain ⟨front, place, name, hinto, rfl⟩ := exists_into hlocate hfree
        have hdraft' := (keepsDirectories_put hplain (.file saved)).locate hdraft
        have hmoved := hinto.moveFile hfree hdraft' (lookup?_put_of_ne_directory hplain)
        rw [hmoved] at hmove
        cases hmove
      · cases (Prod.mk.inj h).2

/-- The file under a path was left alone: what was read is still read, and what is there now was there
before. -/
structure Spares (files after : Files) (path : Path) : Prop where
  kept : ∀ content, files.read path = .ok content → after.read path = .ok content
  lay : ∀ place content, after.locate path = .ok place → after.lookup? place = some (.file content) →
    files.lookup? place = some (.file content)

theorem Spares.refl (files : Files) (path : Path) : files.Spares files path :=
  ⟨fun _ h => h, fun _ _ _ h => h⟩

/-- Whatever is read under the path lay before where it lies now. -/
theorem Spares.exists_lookup? (h : files.Spares after path) (hread : after.read path = .ok content) :
    ∃ place, after.locate path = .ok place ∧ files.lookup? place = some (.file content) := by
  obtain ⟨place, hlocate, hfile⟩ := read_eq_ok_iff.1 hread
  exact ⟨place, hlocate, h.lay place content hlocate hfile⟩

/-- **A save that fails leaves the file alone.** -/
theorem spares_of_failed_save {saved : ByteArray} {e : FileError}
    (h : files.save path saved = (after, some e)) : files.Spares after path := by
  refine ⟨fun content hread => ?_, fun place content hlocate hfile => ?_⟩
  · obtain ⟨e', hfails⟩ | hworks := save_cases_of_read hread
    · rw [hfails] at h
      obtain ⟨rfl, -⟩ := Prod.mk.inj h
      exact hread
    · obtain ⟨saved', hsave⟩ := hworks saved
      rw [hsave] at h
      cases (Prod.mk.inj h).2
  · obtain hsame | ⟨-, hmade⟩ := addsDirectories_of_failed_save h (read_eq_ok hlocate hfile) place
    · rw [← hsame, hfile]
    · rw [hfile] at hmade
      cases hmade

/-- **A save that fails brings no file up**, provided that the path leaves no directory that is missing. -/
theorem read_of_read_failed_save {saved : ByteArray} {e : FileError} (hrooted : files.Rooted)
    (hpresent : files.LeavesPresent path) (h : files.save path saved = (after, some e))
    (hread : after.read path = .ok content) : files.read path = .ok content :=
  (addsDirectories_of_failed_save h hread).read_of_read hrooted hpresent hread

/-! ## Writing elsewhere -/

/-- Writing a file leaves every other file alone, and brings none up. -/
theorem spares_of_write {other : Path} {written : ByteArray} (h : files.write other written = .ok after)
    (hne : ∀ place, files.locate other = .ok place → files.locate path ≠ .ok place) :
    files.Spares after path ∧
      ∀ content, after.read path = .ok content → files.read path = .ok content := by
  obtain ⟨e, hwrite⟩ | ⟨made, hother, hplain, hwrite⟩ := write_cases files other
  · rw [hwrite] at h
    cases h
  · rw [hwrite] at h
    obtain rfl := Except.ok.inj h
    have hkeeps : files.KeepsDirectories (files.put made (.file written)) :=
      keepsDirectories_put hplain _
    have hback : (files.put made (.file written)).KeepsDirectories files := by
      intro place hdirectory
      by_cases heq : place = made
      · rw [heq, lookup?_put_of_ne_directory hplain] at hdirectory
        cases hdirectory
      · rwa [lookup?_put_of_ne heq] at hdirectory
    have hsame {place : Place} (hlocate : files.locate path = .ok place) :
        (files.put made (.file written)).lookup? place = files.lookup? place := by
      refine lookup?_put_of_ne ?_
      rintro rfl
      exact hne place hother hlocate
    refine ⟨⟨fun content hread => ?_, fun place content hlocate hfile => ?_⟩, fun content hread => ?_⟩
    · obtain ⟨place, hlocate, hfile⟩ := read_eq_ok_iff.1 hread
      exact read_eq_ok (hkeeps.locate hlocate) ((hsame hlocate).trans hfile)
    · rw [← hsame (hback.locate hlocate), hfile]
    · obtain ⟨place, hlocate, hfile⟩ := read_eq_ok_iff.1 hread
      have hbefore := hback.locate hlocate
      exact read_eq_ok hbefore ((hsame hbefore).symm.trans hfile)

end Files

end Fieldbook
