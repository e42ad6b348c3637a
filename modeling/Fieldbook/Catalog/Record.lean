import Fieldbook.Json.Members
import Fieldbook.Json.Reader
import Fieldbook.Row

/-!
# Records of the catalog

The documents that the catalog answers with, as far as they matter: the index, a list of names and
addresses; a record with its types, statistics, abilities and the address of its species; and the
label of a species' generation. `CatalogRecord.toRow` makes a row of a record; what the row cannot take
from the record itself, its classification, comes from the label of the species.
-/

namespace Fieldbook

/-- One line of the index. -/
structure IndexEntry where
  name : String
  url : String
  deriving DecidableEq

/-- The index: what it lists, and how many entries it says there are. -/
structure IndexPage where
  count : UInt64 := 0
  results : List IndexEntry
  deriving DecidableEq

/-- A name with the address of what it names. -/
structure Reference where
  name : String
  url : String := ""
  deriving DecidableEq

/-- A statistic of a record. -/
structure StatEntry where
  baseStat : UInt32
  stat : Reference
  deriving DecidableEq

/-- A record of the catalog. -/
structure CatalogRecord where
  id : UInt64
  name : String
  image : Option String := none
  types : List Reference := []
  stats : List StatEntry := []
  abilities : List Reference := []
  species : Reference
  deriving DecidableEq

/-! ## Reading -/

open Json (Record)

/-- A reference. -/
def Reference.ofJson? (j : Json) : Option Reference := do
  let r ← Record.ofJson? ["name", "url"] j
  return { name := ← r.required "name" Json.toText?, url := ← r.defaulted "url" Json.toText? "" }

/-- A structure with one member, and that a reference. -/
def Reference.ofSlot? (name : String) (j : Json) : Option Reference := do
  (← Record.ofJson? [name] j).required name ofJson?

/-- A statistic. -/
def StatEntry.ofJson? (j : Json) : Option StatEntry := do
  let r ← Record.ofJson? ["base_stat", "stat"] j
  return {
    baseStat := ← r.required "base_stat" Json.toUInt32?
    stat := ← r.required "stat" Reference.ofJson? }

namespace CatalogRecord

/-- The picture among the pictures of a record. -/
def image? (j : Json) : Option (Option String) := do
  (← Record.ofJson? ["front_default"] j).optional "front_default" Json.toText?

/-- A record. -/
def ofJson? (j : Json) : Option CatalogRecord := do
  let r ← Record.ofJson? ["id", "name", "sprites", "types", "stats", "abilities", "species"] j
  return {
    id := ← r.required "id" Json.toUInt64?
    name := ← r.required "name" Json.toText?
    image := ← r.defaulted "sprites" image? none
    types := ← r.defaulted "types" (Json.toList? (Reference.ofSlot? "type")) []
    stats := ← r.defaulted "stats" (Json.toList? StatEntry.ofJson?) []
    abilities := ← r.defaulted "abilities" (Json.toList? (Reference.ofSlot? "ability")) []
    species := ← r.required "species" Reference.ofJson? }

/-- The record in a file. -/
def read? (file : ByteArray) : Option CatalogRecord :=
  (Json.read? (Symbol.ofBytes file)).bind ofJson?

end CatalogRecord

/-- An entry of the index. -/
def IndexEntry.ofJson? (j : Json) : Option IndexEntry := do
  let r ← Record.ofJson? ["name", "url"] j
  return { name := ← r.required "name" Json.toText?, url := ← r.required "url" Json.toText? }

namespace IndexPage

/-- The index. -/
def ofJson? (j : Json) : Option IndexPage := do
  let r ← Record.ofJson? ["count", "results"] j
  return {
    count := ← r.defaulted "count" Json.toUInt64? 0
    results := ← r.required "results" (Json.toList? IndexEntry.ofJson?) }

/-- The index in a file. -/
def read? (file : ByteArray) : Option IndexPage :=
  (Json.read? (Symbol.ofBytes file)).bind ofJson?

end IndexPage

namespace Species

/-- The generation that the document of a species names, if it names one. -/
def generation? (j : Json) : Option (Option Reference) := do
  (← Record.ofJson? ["generation"] j).optional "generation" Reference.ofJson?

/-- The generation in the file of a species. -/
def read? (file : ByteArray) : Option (Option Reference) :=
  (Json.read? (Symbol.ofBytes file)).bind generation?

/-- The classification of what has no label that could be read. -/
def defaultClassification : UInt32 := 1

/-- The classification that a label such as `generation-iv` stands for: the Roman number behind the
first hyphen, from one to nine in either case. Any other label stands for one. -/
def classification (label : String) : UInt32 :=
  match (label.toList.splitOnP (· == '-'))[1]? with
  | none => defaultClassification
  | some roman =>
    match String.ofList (roman.map Char.toUpper) with
    | "I" => 1
    | "II" => 2
    | "III" => 3
    | "IV" => 4
    | "V" => 5
    | "VI" => 6
    | "VII" => 7
    | "VIII" => 8
    | "IX" => 9
    | _ => defaultClassification

end Species

/-! ## Rows -/

namespace CatalogRecord

/-- The id of the row of a record; records with different ids have rows with different ids. -/
def rowId (id : UInt64) : String := s!"pokeapi-{id.toNat}"

/-- A statistic of a record: the first entry with its name counts, and zero if there is none. -/
def baseStat (record : CatalogRecord) (stat : Stat) : UInt32 :=
  ((record.stats.find? fun e => e.stat.name == stat.catalogName).map StatEntry.baseStat).getD 0

/-- The row of a record. -/
def toRow (record : CatalogRecord) (classification : UInt32) : Row where
  id := rowId record.id
  sourceId := record.id
  name := Text.capitalize record.name
  image := record.image
  categories := record.types.map Reference.name
  classification := classification
  capabilities := record.abilities.map Reference.name
  stats := .ofFunction record.baseStat

end CatalogRecord

end Fieldbook
