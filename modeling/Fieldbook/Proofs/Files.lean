import Fieldbook.Proofs.Files.Places

/-!
# What was saved is read

A content that was saved under a path is found under that path (`readIfPresent_of_save`), whatever the
path looks like and whatever else there is. Writing and moving files leave every directory in its place
(`KeepsDirectories`), so a path still leads where it led before.
-/

namespace Fieldbook

namespace Files

/-- What succeeds has succeeded step by step. -/
theorem exists_of_bind_eq_ok {α β : Type} {first : Except FileError α} {next : α → Except FileError β}
    {b : β} (h : (first >>= next) = .ok b) : ∃ a, first = .ok a ∧ next a = .ok b := by
  cases first with
  | error e => cases h
  | ok a => exact ⟨a, rfl, h⟩

variable {files after : Files} {path : Path} {place : Place}

/-- Whatever was a directory still is one. -/
def KeepsDirectories (files after : Files) : Prop :=
  ∀ place, files.lookup? place = some .directory → after.lookup? place = some .directory

theorem keepsDirectories_put (h : files.lookup? place ≠ some .directory) (entry : Entry) :
    files.KeepsDirectories (files.put place entry) := by
  intro p hp
  have hne : p ≠ place := by rintro rfl; exact h hp
  rw [lookup?_put_of_ne hne, hp]

theorem keepsDirectories_remove (h : files.lookup? place ≠ some .directory) :
    files.KeepsDirectories (files.remove place) := by
  intro p hp
  have hne : p ≠ place := by rintro rfl; exact h hp
  rw [lookup?_remove_of_ne hne, hp]

/-- Where something other than a directory was removed, nothing is. -/
theorem lookup?_remove_self (h : files.lookup? place ≠ some .directory) :
    (files.remove place).lookup? place = none := by
  rw [lookup?] at h ⊢
  split at h
  · exact absurd rfl h
  · next hall =>
    rw [if_neg hall, List.lookup_eq_none_iff]
    rintro ⟨q, entry⟩ hentry
    exact bne_comm.symm.trans (List.mem_filter.1 hentry).2

/-- Removing makes no directory. -/
theorem lookup?_remove_ne_directory {p : Place} (h : files.lookup? p ≠ some .directory) :
    (files.remove place).lookup? p ≠ some .directory := by
  by_cases hp : p = place
  · subst hp
    rw [lookup?_remove_self h]
    rintro ⟨⟩
  · rwa [lookup?_remove_of_ne hp]

/-- A walk goes through directories only. -/
theorem KeepsDirectories.walk (h : files.KeepsDirectories after) {start : Place} {parts : List String}
    (hwalk : files.walk start parts = .ok place) : after.walk start parts = .ok place := by
  induction parts generalizing start with
  | nil => exact hwalk
  | cons part rest ih =>
    obtain ⟨hdirectory, hsize, hrest⟩ := walk_cons_eq_ok.1 hwalk
    exact walk_cons_eq_ok.2 ⟨h start hdirectory, hsize, ih hrest⟩

theorem KeepsDirectories.locate (h : files.KeepsDirectories after)
    (hlocate : files.locate path = .ok place) : after.locate path = .ok place := by
  obtain ⟨hfits, hwalk⟩ := locate_eq_ok.1 hlocate
  exact locate_eq_ok.2 ⟨hfits, h.walk hwalk⟩

/-- What was put where no directory is is found there. -/
theorem lookup?_put_of_ne_directory {entry : Entry} (h : files.lookup? place ≠ some .directory) :
    (files.put place entry).lookup? place = some entry := by
  refine lookup?_put_self (Bool.eq_false_iff.2 fun hall => h ?_)
  rw [lookup?, if_pos hall]

theorem read_eq_ok {content : ByteArray} (hlocate : files.locate path = .ok place)
    (hfile : files.lookup? place = some (.file content)) : files.read path = .ok content := by
  rw [read, hlocate]
  simp only [bind, Except.bind, hfile]

/-- What was written under a path is what is read under it. -/
theorem read_of_write {content : ByteArray} (h : files.write path content = .ok after) :
    after.read path = .ok content := by
  rw [write] at h
  split at h
  · cases h
  · split at h
    · obtain ⟨_, -, h⟩ := exists_of_bind_eq_ok h
      cases h
    · obtain ⟨place, hlocate, h⟩ := exists_of_bind_eq_ok h
      split at h
      · cases h
      · next hdirectory =>
        cases h
        exact read_eq_ok ((keepsDirectories_put hdirectory _).locate hlocate)
          (lookup?_put_of_ne_directory hdirectory)

/-- A file that was moved was taken from where the old path leads and put where the new one leads, and no
directory was in either place. -/
theorem exists_of_moveFile {source target : Path} (h : files.moveFile source target = .ok after) :
    ∃ origin goal content, files.locate source = .ok origin ∧ files.lookup? origin = some (.file content) ∧
      files.locate target = .ok goal ∧ files.lookup? goal ≠ some .directory ∧
      after = (files.remove origin).put goal (.file content) := by
  rw [moveFile] at h
  split at h
  · cases h
  · obtain ⟨origin, horigin, h⟩ := exists_of_bind_eq_ok h
    obtain ⟨_, -, h⟩ := exists_of_bind_eq_ok h
    split at h
    · cases h
    · obtain ⟨goal, hgoal, h⟩ := exists_of_bind_eq_ok h
      split at h
      · next hfile =>
        split at h
        · cases h
        · next hslash =>
          split at h
          · cases h
          · next hdirectory =>
            rw [Path.withoutSlashes_eq_self hslash] at hgoal
            exact ⟨origin, goal, _, horigin, hfile, hgoal, hdirectory, (Except.ok.inj h).symm⟩
      · cases h
      · cases h

/-- What was read under the old path of a file that was moved is read under its new one. -/
theorem read_of_moveFile {source target : Path} (h : files.moveFile source target = .ok after) :
    ∃ content, files.read source = .ok content ∧ after.read target = .ok content := by
  obtain ⟨origin, goal, content, horigin, hfile, hgoal, hdirectory, rfl⟩ := exists_of_moveFile h
  have horiginal : files.lookup? origin ≠ some .directory := by
    rw [hfile]
    rintro ⟨⟩
  have hfree : (files.remove origin).lookup? goal ≠ some .directory :=
    lookup?_remove_ne_directory hdirectory
  refine ⟨content, read_eq_ok horigin hfile, read_eq_ok ?_ (lookup?_put_of_ne_directory hfree)⟩
  exact (keepsDirectories_put hfree _).locate ((keepsDirectories_remove horiginal).locate hgoal)

theorem readIfPresent_of_read {content : ByteArray} (h : files.read path = .ok content) :
    files.readIfPresent path = .ok (some content) := by
  have hpresent : files.isPresent path = true := by
    obtain ⟨place, hlocate, hfile⟩ := exists_of_bind_eq_ok h
    rw [isPresent, hlocate]
    split at hfile
    · next heq => simp [heq]
    · next heq => simp [heq]
    · cases hfile
  rw [readIfPresent, if_pos hpresent, h]
  rfl

/-- **What was saved under a path is what is read under it.** -/
theorem readIfPresent_of_save {content : ByteArray} (h : files.save path content = (after, none)) :
    after.readIfPresent path = .ok (some content) := by
  rw [save] at h
  split at h
  · cases h
  · split at h
    · cases h
    · next hwrite =>
      split at h
      · cases h
      · next hmove =>
        cases h
        obtain ⟨moved, hdraft, htarget⟩ := read_of_moveFile hmove
        obtain rfl : content = moved := Except.ok.inj ((read_of_write hwrite).symm.trans hdraft)
        exact readIfPresent_of_read htarget

end Files

end Fieldbook
