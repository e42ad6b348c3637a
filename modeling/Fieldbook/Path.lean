/-!
# Paths

A path is kept as it is written, in the parts between its slashes. Nothing is left out, because the way of
writing counts: `x` may lead to a file, but `x/` and `x/.` only to a directory, and a path can be too long
for the system although most of its parts are dots.

* an *idle* part, that is an empty one or a dot, stays where it is;
* the two dots lead one directory up;
* every other part is a name.

`Path.draft` says where the new content of a file is written before it is moved into place.
-/

namespace Fieldbook

/-- A path as it is written. -/
structure Path where
  /-- The path begins with a slash. -/
  fromRoot : Bool
  /-- What stands between the slashes, outermost first; the slash in front does not count. -/
  parts : List String
  deriving DecidableEq

namespace Path

/-- What stands between slashes. -/
def splitParts (cs : List Char) : List String := (cs.splitOn '/').map String.ofList

/-- The path that is written so. -/
def ofText (text : String) : Path :=
  match text.toList with
  | '/' :: rest => ⟨true, splitParts rest⟩
  | cs => ⟨false, splitParts cs⟩

/-- A path in writing. -/
def toText (path : Path) : String :=
  (if path.fromRoot then "/" else "") ++ "/".intercalate path.parts

/-- The part stays where it is. -/
def isIdle (part : String) : Bool := part == "" || part == "."

/-- The longest name in bytes that the system takes. -/
def nameLimit : Nat := 255

/-- The longest path in bytes that the system takes. -/
def textLimit : Nat := 4095

/-- The path is too long for the system. -/
def isTooLong (path : Path) : Bool := textLimit < path.toText.utf8ByteSize

/-- A list of parts without the idle ones at its end. -/
def withoutIdleEnd (parts : List String) : List String :=
  (parts.reverse.dropWhile isIdle).reverse

/-- The path ends in a slash. -/
def endsInSlash (path : Path) : Bool := path.parts.getLast? == some ""

/-- A path without the slashes at its end. -/
def withoutSlashes (path : Path) : Path :=
  ⟨path.fromRoot, (path.parts.reverse.dropWhile (· == "")).reverse⟩

/-- The part that a path ends in, whatever slashes follow it. -/
def lastPart? (path : Path) : Option String := path.withoutSlashes.parts.getLast?

/-- The directory in which the last part of a path is looked up. -/
def surrounding (path : Path) : Path :=
  ⟨path.fromRoot, path.withoutSlashes.parts.dropLast ++ ["."]⟩

/-- The path without its last name and all that is idle around it. -/
def folder (path : Path) : Path :=
  ⟨path.fromRoot, withoutIdleEnd (withoutIdleEnd path.parts).dropLast⟩

/-- A file's name without what follows its last dot, unless that dot comes first. -/
def stem (name : String) : String :=
  match name.toList.reverse.dropWhile (· != '.') with
  | '.' :: front => if front.isEmpty then name else String.ofList front.reverse
  | _ => name

/-- Where the new content of a file is written before it is moved into place: beside the file, under its
stem with another ending. A path that leads to no name is its own draft. The stem of a name such as `..x`
is a dot, and a path that ends in it is cut to the two dots, which take no ending. -/
def draft (path : Path) : Path :=
  let parts := withoutIdleEnd path.parts
  match parts.getLast? with
  | none | some ".." => path
  | some name =>
    let ending := if stem name = "." ∧ parts = path.parts then ".." else stem name ++ ".json.tmp"
    ⟨path.fromRoot, parts.dropLast ++ [ending]⟩

end Path

end Fieldbook
