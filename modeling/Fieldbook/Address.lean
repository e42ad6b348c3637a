import Fieldbook.Host

/-!
# Web addresses

An address is read leniently and has one normal form: the scheme in lower case, the host in ASCII
(`Host.text`), no number behind the host that goes without saying, a path without dots, and every character
that does not belong into its part escaped. A name and a password in front of the host are not kept, unless
they cannot be told apart from bytes that are no text.

What follows a scheme depends on the scheme (`SchemeKind`): some have a host whatever the number and the lean
of the slashes, files may have one, and any other has one behind two slashes, a path behind one, and else a
text that is no path.
-/

namespace Fieldbook

/-- Where an address leads to. -/
structure Site where
  /-- What was kept of name and password, with the sign behind it. -/
  user : String := ""
  host : Option Host
  /-- The number behind the host, unless it goes without saying. -/
  number : Option Nat := none
  deriving DecidableEq

/-- The way to go from a site. -/
inductive Route where
  /-- A path: its segments, each behind a slash. -/
  | path (segments : List String)
  /-- A text that is no path. -/
  | text (s : String)
  deriving DecidableEq

/-- An address in its normal form. -/
structure Address where
  scheme : String
  site : Option Site := none
  route : Route
  query : Option String := none
  fragment : Option String := none
  deriving DecidableEq

namespace Address

/-! ## Characters -/

/-- What does not belong into a fragment. -/
def fragmentMarks : List Char := [' ', '"', '<', '>', '\x60']

/-- What does not belong into a path. -/
def pathMarks : List Char := fragmentMarks ++ ['#', '?', '\x7b', '\x7d']

/-- What does not belong into a name or a password. -/
def userMarks : List Char := pathMarks ++ ['/', ':', ';', '=', '@', '[', '\\', ']', '^', '|']

/-- What does not belong into a query. -/
def queryMarks : List Char := [' ', '"', '#', '<', '>']

/-- Characters with the marks among them escaped. -/
def encode (marks cs : List Char) : String := String.ofList (Text.escape marks cs)

/-- A slash, leaning either way. -/
def isSlash (c : Char) : Bool := c == '/' || c == '\\'

/-! ## Schemes -/

/-- What follows a scheme. -/
inductive SchemeKind where
  /-- A host, with a number that goes without saying. -/
  | served (usual : Nat)
  | file
  | other
  deriving DecidableEq

/-- The kind of a scheme. -/
def kindOf : String → SchemeKind
  | "http" | "ws" => .served 80
  | "https" | "wss" => .served 443
  | "ftp" => .served 21
  | "file" => .file
  | _ => .other

/-- The scheme of an address in lower case and what follows its colon: a letter, then letters, digits and
some signs. -/
def splitScheme? (cs : List Char) : Option (String × List Char) :=
  let inScheme := fun (c : Char) => c.isAlphanum || c == '+' || c == '-' || c == '.'
  match cs.takeWhile inScheme, cs.dropWhile inScheme with
  | c :: scheme, ':' :: rest =>
    if c.isAlpha then some (String.ofList ((c :: scheme).map Char.toLower), rest) else none
  | _, _ => none

/-! ## Sites -/

/-- What is kept of a name and a password: nothing if the name is a text, or if there is none and the password
is a text. -/
def keptUser (user : List Char) : String :=
  let name := user.takeWhile (· != ':')
  let password := (user.dropWhile (· != ':')).drop 1
  let isText := fun cs => (Text.unescaped? cs).isSome
  if if name.isEmpty then isText password else isText name then ""
  else
    encode userMarks name ++ (if password.isEmpty then "" else ":" ++ encode userMarks password) ++ "@"

/-- What stands in front of the last `@`, if there is one, and what stands behind it. -/
def splitUser (authority : List Char) : Option (List Char) × List Char :=
  let behind := (authority.reverse.takeWhile (· != '@')).reverse
  if behind.length = authority.length then (none, behind)
  else (some (authority.take (authority.length - behind.length - 1)), behind)

/-- The host, and its number with the colon; a colon in brackets belongs to the host. -/
def splitNumber (inBrackets : Bool) : List Char → List Char × List Char
  | [] => ([], [])
  | c :: cs =>
    if c == ':' && !inBrackets then ([], c :: cs)
    else
      let (host, number) := splitNumber (c == '[' || (inBrackets && c != ']')) cs
      (c :: host, number)

/-- The number behind a host, read with its colon, and what follows it; the usual one goes without saying. -/
def readNumber? (usual : Option Nat) : List Char → Option (Option Nat × List Char)
  | ':' :: cs =>
    let digits := cs.takeWhile Char.isDigit
    let number := digits.foldl (fun n c => n * 10 + (c.toNat - '0'.toNat)) 0
    if 65535 < number then none
    else
      some (if digits.isEmpty ∨ usual = some number then none else some number,
        cs.dropWhile Char.isDigit)
  | cs => some (none, cs)

/-- The site on a host of a scheme whose addresses are on hosts. -/
def readServed? (usual : Nat) (authority : List Char) : Option Site := do
  let (user, behind) := splitUser authority
  let (host, number) := splitNumber false behind
  let host ← Host.read? host
  let (number, rest) ← readNumber? (some usual) number
  if rest.isEmpty then some { user := (user.map keptUser).getD "", host := some host, number }
  else none

/-- The site of another scheme, and what a backslash behind its number begins. Without a host there is no
number, and no name or password. -/
def readOther? (authority : List Char) : Option (Site × List Char) := do
  let (user, behind) := splitUser authority
  let (host, number) := splitNumber false behind
  if host.isEmpty then
    if number.isEmpty ∧ (user = none ∨ user = some [':']) then some ({ host := none }, []) else none
  else
    let host ← Host.readPlain? host
    let (number, rest) ← readNumber? none number
    if rest.isEmpty ∨ rest.head? = some '\\' then
      some ({ user := (user.map keptUser).getD "", host := some host, number }, rest)
    else none

/-! ## Paths -/

/-- The segment stays where it is. -/
def isDot (segment : List Char) : Bool :=
  [".", "%2e"].contains (String.ofList (segment.map Char.toLower))

/-- The segment leads one up. -/
def isDoubleDot (segment : List Char) : Bool :=
  ["..", ".%2e", "%2e.", "%2e%2e"].contains (String.ofList (segment.map Char.toLower))

/-- The name of a drive: a letter with a colon or a bar. -/
def isDrive : List Char → Bool
  | [letter, sign] => letter.isAlpha && (sign == ':' || sign == '|')
  | _ => false

/-- The segments one up. From a drive there is no way up. -/
def goUp (segments : List String) : List String :=
  if segments.getLast?.any fun s => isDrive s.toList then segments else segments.dropLast

/-- The segments of a path behind those that were read: dots are followed, and a path that ends in dots
ends in a slash. If a drive may come first, its name is given a colon there. -/
def readSegments (mayBeDrive : Bool) (front : List String) : List (List Char) → List String
  | [] => front
  | segment :: rest =>
    let ending := if rest.isEmpty then [""] else []
    if isDoubleDot segment then readSegments mayBeDrive (goUp front ++ ending) rest
    else if isDot segment then readSegments mayBeDrive (front ++ ending) rest
    else
      let segment :=
        if mayBeDrive && front.isEmpty && isDrive segment then segment.take 1 ++ [':'] else segment
      readSegments mayBeDrive (front ++ [encode pathMarks segment]) rest

/-- The segments of the path that is written so, the slash it begins with left out. -/
def readPath (isSlash : Char → Bool) (cs : List Char) : List String :=
  readSegments false [] (cs.splitOnP isSlash)

/-! ## Files -/

/-- The segments of the path of a file, with those in front that are empty. -/
def readFilePath (cs : List Char) : List String := readSegments true [] (cs.splitOnP isSlash)

/-- Characters without the slash they begin with. -/
def withoutSlash (cs : List Char) : List Char := if cs.head?.any isSlash then cs.drop 1 else cs

/-- A path without the empty segments in front. -/
def withoutEmpty (path : List String) : List String :=
  match path.dropWhile (·.isEmpty) with
  | [] => [""]
  | path => path

/-- The host and the path of a file behind two slashes. The host of this machine goes without saying; where
there is none, the slash that the path begins with counts for an empty segment. In front of a drive no host is
kept. -/
def readFileHost? (cs : List Char) : Option (Option Host × List String) := do
  let name := cs.takeWhile (!isSlash ·)
  let rest := cs.dropWhile (!isSlash ·)
  if isDrive name then
    return (none, withoutEmpty (readFilePath cs))
  let host ← if name.isEmpty then some none else (Host.read? name).map some
  let host := host.filter (· ≠ .name "localhost")
  let path := readFilePath (if host.isSome then withoutSlash rest else rest)
  let atDrive := path.head?.any fun s => isDrive s.toList
  return (if atDrive then none else host, withoutEmpty path)

/-- The site and the path of a file. -/
def readFile? (cs : List Char) : Option (Site × List String) :=
  match cs.splitAt 2 with
  | ([a, b], rest) =>
    if isSlash a && isSlash b then
      (readFileHost? rest).map fun (host, path) => ({ host }, path)
    else some ({ host := none }, withoutEmpty (readFilePath (withoutSlash cs)))
  | _ => some ({ host := none }, withoutEmpty (readFilePath (withoutSlash cs)))

/-! ## Addresses -/

/-- The site and the way that are written so behind a scheme. -/
def readRest? (kind : SchemeKind) (cs : List Char) : Option (Option Site × Route) :=
  match kind with
  | .served usual => do
    let cs := cs.dropWhile isSlash
    let site ← readServed? usual (cs.takeWhile (!isSlash ·))
    return (site, .path (readPath isSlash ((cs.dropWhile (!isSlash ·)).drop 1)))
  | .file => do
    let (site, path) ← readFile? cs
    return (site, .path path)
  | .other =>
    match cs with
    | '/' :: '/' :: cs => do
      let (site, rest) ← readOther? (cs.takeWhile (· != '/'))
      let path := rest ++ cs.dropWhile (· != '/')
      return (site, .path (if path.isEmpty then [] else
        readPath (· == '/') (if path.head? = some '/' then path.drop 1 else path)))
    | '/' :: cs => some (none, .path (readPath (· == '/') cs))
    | cs => some (none, .text (encode [] cs))

/-- The address that is written so. Blanks in front and behind do not count, nor do tabs and line breaks
anywhere. -/
def read? (text : String) : Option Address := do
  let cs := (text.toList.dropWhile (· ≤ ' ')).reverse.dropWhile (· ≤ ' ')
  let (scheme, cs) ← splitScheme? (cs.reverse.filter fun c => c != '\t' && c != '\n' && c != '\r')
  let fragment := cs.dropWhile (· != '#')
  let cs := cs.takeWhile (· != '#')
  let query := cs.dropWhile (· != '?')
  let kind := kindOf scheme
  let (site, route) ← readRest? kind (cs.takeWhile (· != '?'))
  let queryMarks := if kind = .other then queryMarks else '\'' :: queryMarks
  some
    { scheme, site, route
      query := query.tail?.map (encode queryMarks)
      fragment := fragment.tail?.map (encode fragmentMarks) }

/-! ## Writing -/

/-- A site in writing. -/
def siteText (site : Site) : String :=
  "//" ++ site.user ++ (site.host.map Host.text).getD "" ++
    (site.number.map fun n => s!":{n}").getD ""

/-- A way in writing. -/
def routeText : Route → String
  | .path segments => String.join (segments.map ("/" ++ ·))
  | .text s => s

/-- A path without a site must not look like one. -/
def guardText (address : Address) : String :=
  match address.site, address.route with
  | none, .path ("" :: _ :: _) => "/."
  | _, _ => ""

/-- An address in writing. -/
def text (address : Address) : String :=
  address.scheme ++ ":" ++ (address.site.map siteText).getD "" ++ address.guardText ++
    routeText address.route ++ (address.query.map ("?" ++ ·)).getD "" ++
    (address.fragment.map ("#" ++ ·)).getD ""

/-! ## Requests -/

/-- The address is one of the web. -/
def isWeb (address : Address) : Bool :=
  address.scheme == "http" || address.scheme == "https"

/-- The host can be named in a request. -/
def namesHost (address : Address) : Bool :=
  match address.site with
  | some { host := some (.name name), .. } =>
    !name.toList.any fun c => c == '"' || c == '\x60' || c == '\x7b' || c == '\x7d'
  | _ => true

/-- The most bytes of an address that is asked for. -/
def requestLimit : Nat := 65534

/-- The address can be asked for. -/
def canBeAsked (address : Address) : Bool :=
  address.isWeb && address.namesHost && address.text.utf8ByteSize ≤ requestLimit

end Address

end Fieldbook
