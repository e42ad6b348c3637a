import Fieldbook.Text.Blank

/-!
# Fields

The fields of a record. Thirteen of them every record has; any other is a dynamic field, named by the
id of a declared column. Each field has a key, by which files and sentences name it, and a label, which
people read.
-/

namespace Fieldbook

/-- The six base statistics. -/
inductive Stat where
  | hp
  | attack
  | defense
  | specialAttack
  | specialDefense
  | speed
  deriving DecidableEq

namespace Stat

/-- The statistics in the order in which they are listed everywhere. -/
def all : List Stat := [hp, attack, defense, specialAttack, specialDefense, speed]

/-- The key of a statistic. -/
def key : Stat → String
  | hp => "hp"
  | attack => "attack"
  | defense => "defense"
  | specialAttack => "specialAttack"
  | specialDefense => "specialDefense"
  | speed => "speed"

/-- The name of a statistic in the records of the catalog. -/
def catalogName : Stat → String
  | hp => "hp"
  | attack => "attack"
  | defense => "defense"
  | specialAttack => "special-attack"
  | specialDefense => "special-defense"
  | speed => "speed"

/-- The label of a statistic, which a table may use as a header. -/
def label : Stat → String
  | hp => "HP"
  | attack => "Attack"
  | defense => "Defense"
  | specialAttack => "Sp. Atk"
  | specialDefense => "Sp. Def"
  | speed => "Speed"

end Stat

/-- A field of a record. -/
inductive Field where
  | id
  | sourceId
  | name
  | image
  | categories
  | classification
  | capabilities
  | stat (s : Stat)
  /-- The cell of the declared column with this id. -/
  | dynamic (column : String)
  deriving DecidableEq

namespace Field

/-- The fields that every record has, in the order of a written table. -/
def fixed : List Field :=
  [id, sourceId, name, image, categories, classification, capabilities] ++ Stat.all.map stat

/-- The key of a field; a dynamic field goes by its column's id. -/
def key : Field → String
  | id => "id"
  | sourceId => "sourceId"
  | name => "name"
  | image => "image"
  | categories => "categories"
  | classification => "classification"
  | capabilities => "capabilities"
  | stat s => s.key
  | dynamic column => column

/-- The label of a field. -/
def label : Field → String
  | id => "ID"
  | sourceId => "Source ID"
  | name => "Name"
  | image => "Image"
  | categories => "Types"
  | classification => "Generation"
  | capabilities => "Abilities"
  | stat s => s.label
  | dynamic column => column

/-- The fixed field with this key, in whatever case its letters are. -/
def ofKey? (key : String) : Option Field :=
  fixed.find? fun f => Text.sameLetters f.key key

/-- The field a key names: a fixed one if there is one with that key, and otherwise the dynamic field
of that name. -/
def ofKey (key : String) : Field :=
  let key := Text.trim key
  (ofKey? key).getD (dynamic key)

end Field

end Fieldbook
