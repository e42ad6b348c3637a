import Fieldbook.Proofs.Files.Saving

/-!
# Files stay rooted

Whatever there is lies in directories that are there (`Rooted`), and each request keeps it so. A place that a
path leads to was reached through directories (`reached_of_locate`), so something may be put there
(`Rooted.put`); and what is taken away to be moved is a file, in which nothing lies (`Rooted.remove`). Saving is
made of these, and keeps it too, whether it works or fails at any of its steps (`Rooted.save`).
-/

namespace Fieldbook

namespace Files

variable {files after : Files} {path : Path} {place : Place}

/-- A path leads through directories. -/
theorem reached_of_locate (h : files.locate path = .ok place) : files.Reached place :=
  (Reached.of_all_isAbove (Place.all_isAbove_start path)).walk (locate_eq_ok.1 h).2

/-- A place is still reached as long as the directories stay. -/
theorem KeepsDirectories.reached (h : files.KeepsDirectories after) (hreached : files.Reached place) :
    after.Reached place :=
  { hreached with directories := fun front hfront hne => h front (hreached.directories front hfront hne) }

namespace Rooted

/-- Nothing lies in what is not a directory, and so it can be removed. -/
theorem remove (h : files.Rooted) (hplain : files.lookup? place ≠ some .directory) :
    (files.remove place).Rooted := by
  intro p front hp hfront hne
  refine keepsDirectories_remove hplain front (h p front ?_ hfront hne)
  by_cases heq : p = place
  · subst heq
    exact absurd (lookup?_remove_self hplain) hp
  · rwa [lookup?_remove_of_ne heq] at hp

theorem write (h : files.Rooted) {content : ByteArray} (hwrite : files.write path content = .ok after) :
    after.Rooted := by
  obtain ⟨e, hfails⟩ | ⟨place, hlocate, hplain, hworks⟩ := write_cases files path
  · rw [hfails] at hwrite
    cases hwrite
  · rw [hworks] at hwrite
    obtain rfl := Except.ok.inj hwrite
    exact h.put (reached_of_locate hlocate) hplain _

theorem makeDirectory (h : files.Rooted) (hmake : files.makeDirectory path = .ok after) : after.Rooted := by
  obtain ⟨place, hlocate, hmake⟩ := exists_of_bind_eq_ok hmake
  split at hmake
  · cases hmake
  · next hnone =>
    obtain rfl := Except.ok.inj hmake
    refine h.put (reached_of_locate hlocate) ?_ _
    rw [hnone]
    rintro ⟨⟩

theorem makeDirectories (h : files.Rooted) (path : Path) : (files.makeDirectories path).1.Rooted :=
  makeParts_induction makeDirectory h _ _

/-- A file is moved to a place that is still reached without it. -/
theorem moveFile (h : files.Rooted) {source target : Path} (hmove : files.moveFile source target = .ok after) :
    after.Rooted := by
  obtain ⟨origin, goal, content, -, hfile, hgoal, hfree, rfl⟩ := exists_of_moveFile hmove
  have hplain : files.lookup? origin ≠ some .directory := by
    rw [hfile]
    rintro ⟨⟩
  have hreached := (keepsDirectories_remove hplain).reached (reached_of_locate hgoal)
  exact (h.remove hplain).put hreached (lookup?_remove_ne_directory hfree) _

/-- **Saving leaves the files rooted**, however far it gets. -/
theorem save (h : files.Rooted) (path : Path) (content : ByteArray) : (files.save path content).1.Rooted := by
  have hfolder := h.makeDirectories path.folder
  rw [Files.save]
  split
  · next heq =>
    rw [heq] at hfolder
    exact hfolder
  · next heq =>
    rw [heq] at hfolder
    split
    · exact hfolder
    · next hwrite =>
      have hwritten := hfolder.write hwrite
      split
      · exact hwritten
      · next hmove => exact hwritten.moveFile hmove

end Rooted

end Files

end Fieldbook
