import Fieldbook.Address
import Fieldbook.Catalog.Record
import Fieldbook.Catalog.Settings

/-!
# Sources

Where records come from. A source answers three kinds of request, each with a result or a reason why
there is none. Two sources are given here: one that asks a server for documents, and one that holds its
records itself and can be told to fail.
-/

namespace Fieldbook

/-- Why a request has no result. -/
inductive SourceError where
  /-- The request did not get through. -/
  | transport (url message : String)
  /-- The answer was a refusal. -/
  | status (url : String) (code : Nat)
  /-- The answer is no document of the expected form. -/
  | decode (url : String)
  /-- The answer lacks what was asked for. -/
  | shape (url what : String)
  deriving DecidableEq

/-- The wording of a failed request. -/
def SourceError.message : SourceError → String
  | transport url message => s!"request to {url} failed: {message}"
  | status url code => s!"{url} returned status {code}"
  | decode url => s!"could not decode {url}: <json>"
  | shape url what => s!"{url} has no {what}"

/-- What can be asked of a catalog. -/
structure Source where
  index : Except SourceError IndexPage
  record : String → Except SourceError CatalogRecord
  /-- The classification of the species at an address. -/
  classification : String → Except SourceError UInt32

/-! ## A server -/

/-- What comes back from a server. -/
inductive Reply where
  /-- The request did not get through. -/
  | failed (message : String)
  | answered (status : Nat) (body : ByteArray)

/-- A server answers addresses. -/
abbrev Server := String → Reply

namespace Server

/-- The server that no request reaches. An address that can be asked for is tried in vain; any other is not
even tried. -/
def unreachable : Server := fun url =>
  match Address.read? url with
  | none => .failed "builder error"
  | some address =>
    if address.canBeAsked then .failed s!"error sending request for url ({address.text})"
    else .failed s!"builder error for url ({address.text})"

/-- What `read?` makes of the document at an address. -/
def document {α : Type} (server : Server) (url : String) (read? : ByteArray → Option α) :
    Except SourceError α :=
  match server url with
  | .failed message => .error (.transport url message)
  | .answered status body =>
    if 200 ≤ status ∧ status ≤ 299 then
      match read? body with
      | some a => .ok a
      | none => .error (.decode url)
    else .error (.status url status)

end Server

/-- The catalog on a server. -/
def Source.http (settings : Settings) (server : Server) : Source where
  index := server.document settings.indexUrl IndexPage.read?
  record url := server.document url CatalogRecord.read?
  classification url := do
    match ← server.document url Species.read? with
    | some generation => .ok (Species.classification generation.name)
    | none => .error (.shape url "generation")

/-! ## Records at hand -/

/-- A catalog that holds its records itself. -/
structure Shelf where
  entries : List IndexEntry := []
  /-- The records by their addresses, latest first. -/
  records : List (String × CatalogRecord) := []
  /-- The labels of species by their addresses, latest first. -/
  labels : List (String × String) := []
  /-- Addresses of records that fail. -/
  failingRecords : List String := []
  /-- Addresses of species that fail. -/
  failingSpecies : List String := []
  indexFails : Bool := false
  /-- The count that the index reports in place of the true one. -/
  reportedCount : Option UInt64 := none

namespace Shelf

/-- Puts a record at an address and gives its species a label. -/
def add (shelf : Shelf) (url : String) (record : CatalogRecord) (label : String) : Shelf :=
  { shelf with
    entries := shelf.entries ++ [⟨record.name, url⟩]
    records := (url, record) :: shelf.records
    labels := (record.species.url, label) :: shelf.labels }

/-- The species at an address no longer fails. -/
def heal (shelf : Shelf) (url : String) : Shelf :=
  { shelf with failingSpecies := shelf.failingSpecies.filter (· != url) }

/-- The requests that a shelf answers. -/
def source (shelf : Shelf) : Source where
  index :=
    if shelf.indexFails then .error (.status "mock://index" 503)
    else .ok ⟨shelf.reportedCount.getD (UInt64.ofNat shelf.entries.length), shelf.entries⟩
  record url :=
    if shelf.failingRecords.contains url then .error (.status url 500)
    else
      match shelf.records.lookup url with
      | some record => .ok record
      | none => .error (.status url 404)
  classification url :=
    if shelf.failingSpecies.contains url then .error (.status url 500)
    else
      match shelf.labels.lookup url with
      | some label => .ok (Species.classification label)
      | none => .error (.shape url "generation")

end Shelf

end Fieldbook
