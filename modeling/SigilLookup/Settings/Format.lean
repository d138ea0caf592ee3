import SigilLookup.Json.Reader
import SigilLookup.Settings.Ini
import SigilLookup.Settings.Json5
import SigilLookup.Settings.Ron
import SigilLookup.Settings.Toml
import SigilLookup.Settings.Yaml

/-!
# Formats of settings files

Each format reads a text as a value; the value of a settings file must be a table.
-/

namespace SigilLookup

namespace Setting

def ofNumber : Number → Setting
  | .int value _ => .integer value
  | .float value => .double (.finite value)

mutual

def ofJson : Json → Setting
  | .null => .nothing
  | .bool value => .bool value
  | .num value => ofNumber value
  | .str value => .text value
  | .arr items => .list (ofJsonItems items)
  | .obj members => .table (ofJsonMembers members)

def ofJsonItems : List Json → List Setting
  | [] => []
  | item :: rest => ofJson item :: ofJsonItems rest

def ofJsonMembers : List (String × Json) → List (String × Setting)
  | [] => []
  | (name, value) :: rest => (name, ofJson value) :: ofJsonMembers rest

end

end Setting

inductive SettingsFormat where
  | toml
  | json
  | yaml
  | ini
  | ron
  | json5
deriving DecidableEq

namespace SettingsFormat

/-- The extensions of files, in the order in which they are looked for, and their formats. -/
def extensions : List (String × SettingsFormat) :=
  [("toml", .toml), ("json", .json), ("yaml", .yaml), ("yml", .yaml), ("ini", .ini), ("ron", .ron),
    ("json5", .json5)]

/-- The format of an extension, which is written in lower case. -/
def ofExtension? (extension : List UInt8) : Option SettingsFormat :=
  (extensions.find? fun (name, _) => Utf8.encode name = extension).map Prod.snd

def value? : SettingsFormat → String → Option Setting
  | .toml, text => Toml.read? text
  | .json, text => (Json.read? text).map Setting.ofJson
  | .yaml, text => Yaml.Plain.read? text
  | .ini, text => Ini.read? text
  | .ron, text => Ron.read? text
  | .json5, text => Json5.read? text

def read? (format : SettingsFormat) (text : String) : Option (List (String × Setting)) :=
  (format.value? text).bind Setting.entries?

end SettingsFormat

end SigilLookup
