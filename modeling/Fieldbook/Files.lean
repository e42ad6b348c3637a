import Fieldbook.Path

/-!
# Files

A tree of files and directories as a program sees it from its working directory, and the few requests
that the program makes of it. A request that cannot be met says why in the words of the system.

A path is walked part by part, and every part but the last must lead to a directory; if the last part is
idle, as in `x/` and `x/.`, so must the one before it. The working directory, the root and whatever is
above either always are directories.

* what was put at a place is found there, and every other place is as before (`lookup?_put_self`,
  `lookup?_put_of_ne`);
* `save` replaces a file in one step: the new content is written beside it and then moved into place.
-/

namespace Fieldbook

/-- Why the system does not meet a request. -/
inductive FileError where
  | missing
  | busy
  | occupied
  | notDirectory
  | isDirectory
  | nameTooLong
  /-- Any other reason, in the system's words. -/
  | other (reason : String)
  deriving DecidableEq

/-- The words of the system. -/
def FileError.message : FileError → String
  | missing => "No such file or directory (os error 2)"
  | busy => "Device or resource busy (os error 16)"
  | occupied => "File exists (os error 17)"
  | notDirectory => "Not a directory (os error 20)"
  | isDirectory => "Is a directory (os error 21)"
  | nameTooLong => "File name too long (os error 36)"
  | other reason => reason

/-! ## Trees -/

/-- What can be at a place. -/
inductive Entry where
  | file (content : ByteArray)
  | directory

/-- The names that lead to a place from the working directory, outermost first; a place under the root
begins with the name `/`. -/
abbrev Place := List String

namespace Place

/-- The name stands for a place above the others. -/
def isAbove (name : String) : Bool := name == "/" || name == ".."

/-- One part further. -/
def enter (place : Place) (part : String) : Place :=
  if Path.isIdle part then place
  else if part = ".." then
    match place.getLast? with
    | some last =>
      if last = "/" then place else if last = ".." then place ++ [".."] else place.dropLast
    | none => [".."]
  else place ++ [part]

/-- Where a path begins. -/
def start (path : Path) : Place := if path.fromRoot then ["/"] else []

end Place

/-- The files and directories by their places. -/
structure Files where
  entries : List (Place × Entry) := []

namespace Files

/-- What is at a place. -/
def lookup? (files : Files) (place : Place) : Option Entry :=
  if place.all Place.isAbove then some .directory else files.entries.lookup place

/-- Puts something at a place instead of what was there. -/
def put (files : Files) (place : Place) (entry : Entry) : Files :=
  ⟨(place, entry) :: files.entries.filter (·.1 != place)⟩

/-- Leaves nothing at a place. -/
def remove (files : Files) (place : Place) : Files :=
  ⟨files.entries.filter (·.1 != place)⟩

/-- Walks parts of a path from a place. -/
def walk (files : Files) (place : Place) : List String → Except FileError Place
  | [] => .ok place
  | part :: rest =>
    match files.lookup? place with
    | some .directory =>
      if Path.nameLimit < part.utf8ByteSize then .error .nameTooLong
      else walk files (place.enter part) rest
    | some (.file _) => .error .notDirectory
    | none => .error .missing

/-- The place that a path leads to. -/
def locate (files : Files) (path : Path) : Except FileError Place :=
  if path.isTooLong then .error .nameTooLong else files.walk (.start path) path.parts

/-- A path leads to something. -/
def isPresent (files : Files) (path : Path) : Bool :=
  match files.locate path with
  | .ok place => (files.lookup? place).isSome
  | .error _ => false

/-- The content of a file. -/
def read (files : Files) (path : Path) : Except FileError ByteArray := do
  match files.lookup? (← files.locate path) with
  | some (.file content) => .ok content
  | some .directory => .error .isDirectory
  | none => .error .missing

/-- The content of a file, if there is one. -/
def readIfPresent (files : Files) (path : Path) : Except FileError (Option ByteArray) :=
  if files.isPresent path then (files.read path).map some else .ok none

/-- Gives a file a new content, making the file if need be. No file is made under a path that ends in a
slash. -/
def write (files : Files) (path : Path) (content : ByteArray) : Except FileError Files := do
  if path.isTooLong then .error .nameTooLong
  else if path.endsInSlash then
    let _ ← files.locate path.surrounding
    .error .isDirectory
  else
    let place ← files.locate path
    match files.lookup? place with
    | some .directory => .error .isDirectory
    | _ => .ok (files.put place (.file content))

/-- A path leads to a directory. -/
def isDirectory (files : Files) (path : Path) : Bool :=
  match (files.locate path).map files.lookup? with
  | .ok (some .directory) => true
  | _ => false

/-- Makes one directory. -/
def makeDirectory (files : Files) (path : Path) : Except FileError Files := do
  let place ← files.locate path
  match files.lookup? place with
  | some _ => .error .occupied
  | none => .ok (files.put place .directory)

/-- Makes a directory unless there is one. -/
def ensureDirectory (files : Files) (path : Path) : Except FileError Files :=
  match files.makeDirectory path with
  | .ok files => .ok files
  | .error e => if files.isDirectory path then .ok files else .error e

/-- Makes the directory that parts lead to, given the last part first, and those on the way that are
missing. What was made before something failed is kept. -/
def makeParts (files : Files) (fromRoot : Bool) : List String → Files × Option FileError
  | [] => (files, none)
  | part :: before =>
    if Path.isIdle part then makeParts files fromRoot before
    else
      let path : Path := ⟨fromRoot, (part :: before).reverse⟩
      match files.ensureDirectory path with
      | .ok files => (files, none)
      | .error .missing =>
        match makeParts files fromRoot before with
        | (files, some e) => (files, some e)
        | (files, none) =>
          match files.ensureDirectory path with
          | .ok files => (files, none)
          | .error e => (files, some e)
      | .error e => (files, some e)

/-- Makes a directory and those it is in. -/
def makeDirectories (files : Files) (path : Path) : Files × Option FileError :=
  files.makeParts path.fromRoot path.parts.reverse

/-- Moves a file, over the one that was there if need be. It cannot be moved to where only a directory can
be. -/
def moveFile (files : Files) (source target : Path) : Except FileError Files := do
  if target.isTooLong then .error .nameTooLong
  else
    let source ← files.locate source
    let _ ← files.locate target.surrounding
    if target.lastPart?.all fun part => part == "." || part == ".." then .error .busy
    else
      let place ← files.locate target.withoutSlashes
      match files.lookup? source, files.lookup? place with
      | some (.file content), entry =>
        if target.endsInSlash then .error .notDirectory
        else
          match entry with
          | some .directory => .error .isDirectory
          | _ => .ok ((files.remove source).put place (.file content))
      | some .directory, _ => .error .isDirectory
      | none, _ => .error .missing

/-- Keeps a content in a file: makes the directories on the way, writes the content beside the file and
moves it into place. -/
def save (files : Files) (path : Path) (content : ByteArray) : Files × Option FileError :=
  match files.makeDirectories path.folder with
  | (files, some e) => (files, some e)
  | (files, none) =>
    match files.write path.draft content with
    | .error e => (files, some e)
    | .ok files =>
      match files.moveFile path.draft path with
      | .error e => (files, some e)
      | .ok files => (files, none)

/-! ## Places -/

theorem lookup_filter_ne {entries : List (Place × Entry)} {place p : Place} (h : p ≠ place) :
    (entries.filter (·.1 != place)).lookup p = entries.lookup p := by
  induction entries with
  | nil => rfl
  | cons e rest ih =>
    obtain ⟨q, entry⟩ := e
    by_cases hq : q = place
    · subst hq
      rw [List.filter_cons_of_neg (by simp), ih, List.lookup_cons, beq_false_of_ne h]
    · rw [List.filter_cons_of_pos (by simpa using hq), List.lookup_cons, List.lookup_cons, ih]

/-- What was put at a place is found there. -/
theorem lookup?_put_self {files : Files} {place : Place} {entry : Entry}
    (h : place.all Place.isAbove = false) : (files.put place entry).lookup? place = some entry := by
  simp [lookup?, put, h]

/-- Every other place is as it was. -/
theorem lookup?_put_of_ne {files : Files} {place p : Place} {entry : Entry} (h : p ≠ place) :
    (files.put place entry).lookup? p = files.lookup? p := by
  unfold lookup? put
  split
  · rfl
  · rw [List.lookup_cons, beq_false_of_ne h]
    exact lookup_filter_ne h

/-- What is removed from one place is not missed at another. -/
theorem lookup?_remove_of_ne {files : Files} {place p : Place} (h : p ≠ place) :
    (files.remove place).lookup? p = files.lookup? p := by
  unfold lookup? remove
  split
  · rfl
  · exact lookup_filter_ne h

end Files

end Fieldbook
