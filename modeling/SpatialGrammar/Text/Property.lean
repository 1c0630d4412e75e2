import SpatialGrammar.Text.Property.Age
import SpatialGrammar.Text.Property.Break

/-!
# Properties of characters by name

Sets of characters are named by a property, a general category or a script, or by a property and
one of its values. Names are matched loosely: the case of letters, blanks, hyphens and low lines do
not count, nor does a leading `is`.
-/

namespace SpatialGrammar.Text.Property

/-- What counts of the characters of a name. -/
def looseLetters (cs : List Char) : List Char :=
  (cs.filter fun c => c.toNat < 0x80 && c != ' ' && c != '_' && c != '-').map Char.toLower

/-- What counts of a name. A leading `is` does not, except in `isc`, which is a name itself. -/
def looseName (name : List Char) : List Char :=
  match name with
  | 'i' :: 's' :: rest | 'I' :: 's' :: rest | 'i' :: 'S' :: rest | 'I' :: 'S' :: rest =>
    match looseLetters rest with
    | ['c'] => ['i', 's', 'c']
    | letters => letters
  | name => looseLetters name

/-- The entry of a table that goes by a name. -/
def find? (table : List NamedRepertoire) (name : List Char) : Option Repertoire :=
  (table.find? fun entry =>
    entry.names.any fun known => looseName known.toList == looseName name).map (·.repertoire)

/-- The categories that have the name of another property. -/
def isCategoryFirst (name : List Char) : Bool :=
  [['c', 'f'], ['s', 'c'], ['l', 'c']].contains (looseName name)

/-- The set that goes by a single name: of a property, of a general category or of a script. -/
def named? (name : List Char) : Option Repertoire :=
  let property := if isCategoryFirst name then none else find? table name
  property <|> find? Category.table name <|> find? Script.owned name

/-- The properties with several values, by their names. -/
def valued : List (List String × List NamedRepertoire) := [
  (["gc", "General_Category"], Category.table),
  (["sc", "Script"], Script.owned),
  (["scx", "Script_Extensions"], Script.used),
  (["age", "Age"], Version.ages),
  (["GCB", "Grapheme_Cluster_Break"], Break.graphemes),
  (["WB", "Word_Break"], Break.words),
  (["SB", "Sentence_Break"], Break.sentences)]

/-- The set of the characters with a value of a property. -/
def valued? (property value : List Char) : Option Repertoire :=
  (valued.find? fun entry =>
    entry.1.any fun known => looseName known.toList == looseName property).bind fun entry =>
      find? entry.2 value

end SpatialGrammar.Text.Property
