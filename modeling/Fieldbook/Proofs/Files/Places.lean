import Fieldbook.Files
import Mathlib.Tactic.Common

/-!
# Where paths lead

A walk goes from directory to directory and every place on the way up to where it is stays a directory
(`Reached`). So a path that leads to anything but a directory ends in a proper name, looked up in a directory
that the parts before it lead to (`Into`, `exists_into`). What lies around such a path, that is its folder and
the path of the directory it is looked up in, leads to that directory (`Into.locate_folder`,
`Into.locate_surrounding`).
-/

namespace Fieldbook

/-! ## Sizes and idle parts -/

namespace Path

/-- The size of a path in writing, part by part: each but the last has its slash. -/
theorem size_cons {rest : List String} (h : rest ≠ []) (part : String) :
    ("/".intercalate (part :: rest)).utf8ByteSize =
      (part ++ "/").utf8ByteSize + ("/".intercalate rest).utf8ByteSize := by
  rw [String.intercalate_cons_of_ne_nil h, String.utf8ByteSize_append]

/-- A path is written shorter than whatever it is the beginning of. -/
theorem size_le_size_append (front rest : List String) :
    ("/".intercalate front).utf8ByteSize ≤ ("/".intercalate (front ++ rest)).utf8ByteSize := by
  induction front with
  | nil => exact Nat.zero_le _
  | cons part front ih =>
    by_cases hfront : front = []
    · subst hfront
      by_cases hrest : rest = []
      · exact Nat.le_of_eq (by rw [hrest, List.append_nil])
      · rw [List.singleton_append, String.intercalate_singleton, size_cons hrest, String.utf8ByteSize_append]
        omega
    · have hlonger : front ++ rest ≠ [] := List.append_ne_nil_of_left_ne_nil hfront rest
      rw [List.cons_append, size_cons hfront, size_cons hlonger]
      exact Nat.add_le_add_left ih _

/-- With a shorter last part a path is written shorter. -/
theorem size_concat_le {a b : String} (h : a.utf8ByteSize ≤ b.utf8ByteSize) (front : List String) :
    ("/".intercalate (front ++ [a])).utf8ByteSize ≤ ("/".intercalate (front ++ [b])).utf8ByteSize := by
  induction front with
  | nil => simpa using h
  | cons part front ih =>
    rw [List.cons_append, List.cons_append, size_cons (by simp), size_cons (by simp)]
    exact Nat.add_le_add_left ih _

/-- What is written shorter than a path that is not too long is not too long either. -/
theorem isTooLong_of_size_le {fromRoot : Bool} {shorter longer : List String}
    (hsize : ("/".intercalate shorter).utf8ByteSize ≤ ("/".intercalate longer).utf8ByteSize)
    (h : isTooLong ⟨fromRoot, longer⟩ = false) : isTooLong ⟨fromRoot, shorter⟩ = false := by
  rw [isTooLong, decide_eq_false_iff_not, toText, String.utf8ByteSize_append] at h ⊢
  exact fun hlong => h (Nat.lt_of_lt_of_le hlong (Nat.add_le_add_left hsize _))

/-- The beginning of a path that is not too long. -/
theorem isTooLong_front {fromRoot : Bool} {front rest : List String}
    (h : isTooLong ⟨fromRoot, front ++ rest⟩ = false) : isTooLong ⟨fromRoot, front⟩ = false :=
  isTooLong_of_size_le (size_le_size_append front rest) h

/-- All that is cut from the end of a path is idle. -/
theorem exists_withoutIdleEnd_append (parts : List String) :
    ∃ idle, parts = withoutIdleEnd parts ++ idle ∧ ∀ part ∈ idle, isIdle part = true := by
  refine ⟨(parts.reverse.takeWhile isIdle).reverse, ?_, fun part hpart => ?_⟩
  · rw [withoutIdleEnd, ← List.reverse_append, List.takeWhile_append_dropWhile, List.reverse_reverse]
  · exact List.all_eq_true.1 List.all_takeWhile part (List.mem_reverse.1 hpart)

/-- Nothing is cut from a path that ends in a name. -/
theorem withoutIdleEnd_concat {name : String} (h : isIdle name = false) (front : List String) :
    withoutIdleEnd (front ++ [name]) = front ++ [name] := by
  rw [withoutIdleEnd, List.reverse_concat, List.dropWhile_cons, if_neg (by simp [h]), List.reverse_cons,
    List.reverse_reverse]

theorem withoutSlashes_eq_self {path : Path} (h : ¬ path.endsInSlash = true) :
    path.withoutSlashes = path := by
  obtain ⟨fromRoot, parts⟩ := path
  have hkept : parts.reverse.dropWhile (· == "") = parts.reverse := by
    cases hparts : parts.reverse with
    | nil => rfl
    | cons last rest =>
      have hlast : ¬ (last == "") = true := by
        rintro heq
        rw [List.reverse_eq_iff.1 hparts, eq_of_beq heq] at h
        simp [endsInSlash] at h
      rw [List.dropWhile_cons, if_neg hlast]
  rw [withoutSlashes, hkept, List.reverse_reverse]

theorem ne_empty_of_not_isIdle {name : String} (h : isIdle name = false) : name ≠ "" := by
  rintro rfl
  exact absurd h (by decide)

end Path

/-! ## Walks -/

namespace Place

theorem enter_idle {part : String} (h : Path.isIdle part = true) (place : Place) :
    place.enter part = place := by
  rw [enter, if_pos h]

/-- A name leads further, and nothing else does: idle parts stay and two dots go back. -/
theorem enter_name {name : String} (hidle : Path.isIdle name = false) (hup : name ≠ "..") (place : Place) :
    place.enter name = place ++ [name] := by
  rw [enter, if_neg (by simp [hidle]), if_neg hup]

/-- Two dots lead one directory up unless the place is above the beginning already. -/
theorem enter_up {place : Place} {last : String} (hlast : place.getLast? = some last) (hroot : last ≠ "/")
    (hup : last ≠ "..") : place.enter ".." = place.dropLast := by
  have hidle : ¬ Path.isIdle ".." = true := by decide
  rw [enter, if_neg hidle, if_pos rfl, hlast]
  dsimp only
  rw [if_neg hroot, if_neg hup]

theorem all_isAbove_start (path : Path) : (start path).all isAbove = true := by
  rw [start]
  split
  · rfl
  · rfl

end Place

namespace Files

variable {files : Files} {path : Path} {place target : Place}

/-- What is above the beginning is always a directory, whatever the files are. -/
theorem lookup?_of_all_isAbove (h : place.all Place.isAbove = true) :
    files.lookup? place = some .directory := by
  rw [lookup?, if_pos h]

/-- **One step of a walk.** It sets out from a directory and takes a name that is not too long. -/
theorem walk_cons_eq_ok {part : String} {rest : List String} :
    files.walk place (part :: rest) = .ok target ↔
      files.lookup? place = some .directory ∧ part.utf8ByteSize ≤ Path.nameLimit ∧
        files.walk (place.enter part) rest = .ok target := by
  rw [walk]
  split
  · next hdirectory =>
    split
    · next hlimit => simp [hdirectory, Nat.not_le.2 hlimit]
    · next hlimit => simp [hdirectory, Nat.not_lt.1 hlimit]
  · next hfile => simp [hfile]
  · next hnone => simp [hnone]

/-- A walk can be cut anywhere: it goes on from the place that its first part leads to. -/
theorem walk_append_eq_ok {front rest : List String} :
    files.walk place (front ++ rest) = .ok target ↔
      ∃ middle, files.walk place front = .ok middle ∧ files.walk middle rest = .ok target := by
  induction front generalizing place with
  | nil => simp [walk]
  | cons part front ih => simp only [List.cons_append, walk_cons_eq_ok, ih, exists_and_left, and_assoc]

/-- Idle parts lead nowhere else. -/
theorem walk_idle {parts : List String} (hidle : ∀ part ∈ parts, Path.isIdle part = true)
    (h : files.walk place parts = .ok target) : target = place := by
  induction parts with
  | nil => exact (Except.ok.inj h).symm
  | cons part rest ih =>
    obtain ⟨-, -, hrest⟩ := walk_cons_eq_ok.1 h
    rw [Place.enter_idle (hidle part List.mem_cons_self)] at hrest
    exact ih (fun p hp => hidle p (List.mem_cons_of_mem _ hp)) hrest

/-- A path leads to a place if it is not too long and the walk along its parts ends there. -/
theorem locate_eq_ok : files.locate path = .ok target ↔
    path.isTooLong = false ∧ files.walk (Place.start path) path.parts = .ok target := by
  rw [locate]
  cases path.isTooLong <;> simp

/-! ## Places that were reached -/

/-- The places on the way to a place are directories, and two dots in it stand for places above the
beginning. -/
structure Reached (files : Files) (place : Place) : Prop where
  directories : ∀ front, front <+: place → front ≠ place → files.lookup? front = some .directory
  above : ∀ front, front <+: place → front.getLast? = some ".." → front.all Place.isAbove = true

/-- The working directory, the root and whatever is above them count as reached. -/
theorem Reached.of_all_isAbove (h : place.all Place.isAbove = true) : Reached files place := by
  have hall (front : Place) (hfront : front <+: place) : front.all Place.isAbove = true := by
    obtain ⟨rest, rfl⟩ := hfront
    rw [List.all_append, Bool.and_eq_true] at h
    exact h.1
  exact ⟨fun front hfront _ => lookup?_of_all_isAbove (hall front hfront),
    fun front hfront _ => hall front hfront⟩

/-- What lies on the way to a place that was reached was reached too. -/
theorem Reached.of_prefix (h : Reached files place) {front : Place} (hfront : front <+: place) :
    Reached files front := by
  refine ⟨fun f hf hne => h.directories f (hf.trans hfront) fun heq => hne ?_,
    fun f hf => h.above f (hf.trans hfront)⟩
  exact hf.eq_of_length_le (heq ▸ hfront.length_le)

/-- One name further. Two dots may only be added above the beginning, since elsewhere they lead back. -/
theorem Reached.concat (h : Reached files place) (hplace : files.lookup? place = some .directory)
    {name : String} (hname : name = ".." → place.all Place.isAbove = true) :
    Reached files (place ++ [name]) := by
  refine ⟨fun front hfront hne => ?_, fun front hfront hlast => ?_⟩
  · obtain heq | hfront := List.prefix_concat_iff.1 hfront
    · exact absurd heq hne
    · by_cases heq : front = place
      · rw [heq, hplace]
      · exact h.directories front hfront heq
  · obtain rfl | hfront := List.prefix_concat_iff.1 hfront
    · obtain rfl : name = ".." := by simpa using hlast
      rw [List.all_append, hname rfl]
      rfl
    · exact h.above front hfront hlast

/-- One directory up from a directory that was reached is a directory that was reached. -/
theorem Reached.up (h : Reached files place) (hplace : files.lookup? place = some .directory) :
    Reached files (place.enter "..") ∧ files.lookup? (place.enter "..") = some .directory := by
  have hidle : ¬ Path.isIdle ".." = true := by decide
  cases hlast : place.getLast? with
  | none =>
    have henter : place.enter ".." = [".."] := by rw [Place.enter, if_neg hidle, if_pos rfl, hlast]
    have habove : [".."].all Place.isAbove = true := by decide
    rw [henter]
    exact ⟨.of_all_isAbove habove, lookup?_of_all_isAbove habove⟩
  | some last =>
    by_cases hroot : last = "/"
    · have henter : place.enter ".." = place := by
        rw [Place.enter, if_neg hidle, if_pos rfl, hlast]
        exact if_pos hroot
      rw [henter]
      exact ⟨h, hplace⟩
    · by_cases hup : last = ".."
      · have henter : place.enter ".." = place ++ [".."] := by
          rw [Place.enter, if_neg hidle, if_pos rfl, hlast]
          dsimp only
          rw [if_neg hroot, if_pos hup]
        have habove : (place ++ [".."]).all Place.isAbove = true := by
          rw [List.all_append, h.above place (List.prefix_refl _) (hup ▸ hlast)]
          rfl
        rw [henter]
        exact ⟨.of_all_isAbove habove, lookup?_of_all_isAbove habove⟩
      · rw [Place.enter_up hlast hroot hup]
        have hprefix : place.dropLast <+: place := List.dropLast_prefix place
        refine ⟨h.of_prefix hprefix, h.directories _ hprefix fun heq => ?_⟩
        have hlength := congrArg List.length heq
        have hne : place ≠ [] := by
          rintro rfl
          cases hlast
        have hpos := List.length_pos_iff.2 hne
        rw [List.length_dropLast] at hlength
        omega

/-- A step of a walk keeps the places reached, whatever the part is. -/
theorem Reached.enter (h : Reached files place) (hplace : files.lookup? place = some .directory)
    (part : String) : Reached files (place.enter part) := by
  cases hidle : Path.isIdle part with
  | true => rwa [Place.enter_idle hidle]
  | false =>
    by_cases hup : part = ".."
    · exact hup ▸ (h.up hplace).1
    · rw [Place.enter_name hidle hup]
      exact h.concat hplace fun heq => absurd heq hup

/-- **All that a walk comes to was reached**, by induction on its steps. -/
theorem Reached.walk (h : Reached files place) {parts : List String}
    (hwalk : files.walk place parts = .ok target) : Reached files target := by
  induction parts generalizing place with
  | nil => exact Except.ok.inj hwalk ▸ h
  | cons part rest ih =>
    obtain ⟨hdirectory, -, hrest⟩ := walk_cons_eq_ok.1 hwalk
    exact ih (h.enter hdirectory part) hrest

/-! ## Paths into directories -/

/-- A path ends in a proper name, which is looked up in a directory. -/
structure Into (files : Files) (path : Path) (front : List String) (place : Place) (name : String) :
    Prop where
  parts_eq : path.parts = front ++ [name]
  fits : path.isTooLong = false
  leads : files.walk (Place.start path) front = .ok place
  within : files.lookup? place = some .directory
  short : name.utf8ByteSize ≤ Path.nameLimit
  proper : Path.isIdle name = false
  forward : name ≠ ".."

/-- Such a path leads to its name in that directory, whether anything is there or not. -/
theorem Into.locate {front : List String} {name : String} (h : files.Into path front place name) :
    files.locate path = .ok (place ++ [name]) := by
  rw [locate_eq_ok, h.parts_eq, walk_append_eq_ok]
  refine ⟨h.fits, place, h.leads, walk_cons_eq_ok.2 ⟨h.within, h.short, ?_⟩⟩
  rw [Place.enter_name h.proper h.forward]
  rfl

/-- **A path that leads to anything but a directory ends in a proper name.** -/
theorem exists_into (h : files.locate path = .ok target)
    (htarget : files.lookup? target ≠ some .directory) :
    ∃ front place name, files.Into path front place name ∧ target = place ++ [name] := by
  obtain ⟨fits, hwalk⟩ := locate_eq_ok.1 h
  have hstart : (Place.start path).all Place.isAbove = true := Place.all_isAbove_start path
  obtain hnil | ⟨front, name, hparts⟩ := List.eq_nil_or_concat path.parts
  · rw [hnil] at hwalk
    obtain rfl : Place.start path = target := Except.ok.inj hwalk
    exact absurd (lookup?_of_all_isAbove hstart) htarget
  · rw [List.concat_eq_append] at hparts
    rw [hparts] at hwalk
    obtain ⟨place, hfront, hname⟩ := walk_append_eq_ok.1 hwalk
    obtain ⟨hdirectory, hshort, hlast⟩ := walk_cons_eq_ok.1 hname
    obtain rfl : place.enter name = target := Except.ok.inj hlast
    have hreached : Reached files place := (Reached.of_all_isAbove hstart).walk hfront
    have hidle : Path.isIdle name = false := by
      rw [Bool.eq_false_iff]
      intro hidle
      rw [Place.enter_idle hidle] at htarget
      exact htarget hdirectory
    have hup : name ≠ ".." := by
      rintro rfl
      exact htarget (hreached.up hdirectory).2
    exact ⟨front, place, name, ⟨hparts, fits, hfront, hdirectory, hshort, hidle, hup⟩,
      Place.enter_name hidle hup place⟩

namespace Into

variable {front : List String} {name : String}

theorem path_eq (h : files.Into path front place name) : path = ⟨path.fromRoot, front ++ [name]⟩ := by
  rw [← h.parts_eq]

/-- The folder is what stands before the name, without the idle parts between them. -/
theorem folder_eq (h : files.Into path front place name) :
    path.folder = ⟨path.fromRoot, Path.withoutIdleEnd front⟩ := by
  rw [Path.folder, h.parts_eq, Path.withoutIdleEnd_concat h.proper, List.dropLast_concat]

/-- The folder of a path is the directory in which its name is looked up. -/
theorem locate_folder (h : files.Into path front place name) : files.locate path.folder = .ok place := by
  obtain ⟨idle, hfront, hidle⟩ := Path.exists_withoutIdleEnd_append front
  have hleads := h.leads
  rw [hfront] at hleads
  obtain ⟨middle, hmiddle, hrest⟩ := walk_append_eq_ok.1 hleads
  obtain rfl : place = middle := walk_idle hidle hrest
  rw [h.folder_eq, locate_eq_ok]
  refine ⟨?_, hmiddle⟩
  have hfits := h.fits
  rw [h.path_eq, hfront, List.append_assoc] at hfits
  exact Path.isTooLong_front hfits

theorem not_endsInSlash (h : files.Into path front place name) : ¬ path.endsInSlash = true := by
  rw [Path.endsInSlash, h.parts_eq]
  simpa using Path.ne_empty_of_not_isIdle h.proper

theorem withoutSlashes_eq (h : files.Into path front place name) : path.withoutSlashes = path :=
  Path.withoutSlashes_eq_self h.not_endsInSlash

/-- The directory in which the name is looked up is written with a dot in place of the name. -/
theorem surrounding_eq (h : files.Into path front place name) :
    path.surrounding = ⟨path.fromRoot, front ++ ["."]⟩ := by
  rw [Path.surrounding, h.withoutSlashes_eq, h.parts_eq, List.dropLast_concat]

/-- That way of writing leads to the same directory, for the dot is no longer than any name. -/
theorem locate_surrounding (h : files.Into path front place name) :
    files.locate path.surrounding = .ok place := by
  rw [h.surrounding_eq, locate_eq_ok]
  constructor
  · have hfits := h.fits
    rw [h.path_eq] at hfits
    refine Path.isTooLong_of_size_le (Path.size_concat_le ?_ front) hfits
    have hsize : name.utf8ByteSize ≠ 0 :=
      fun hzero => Path.ne_empty_of_not_isIdle h.proper (String.utf8ByteSize_eq_zero_iff.1 hzero)
    exact Nat.pos_of_ne_zero hsize
  · refine walk_append_eq_ok.2 ⟨place, h.leads, walk_cons_eq_ok.2 ⟨h.within, by decide, ?_⟩⟩
    rw [Place.enter_idle (by decide)]
    rfl

end Into

end Files

end Fieldbook
