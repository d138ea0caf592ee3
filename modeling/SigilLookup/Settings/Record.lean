import SigilLookup.Json.Skip
import SigilLookup.Settings.Setting

/-!
# Settings as a JSON record

`Settings.ofRecord?` reads settings from a JSON text without any leniency about types: an object
whose members are the fields, each at most once, or an array of the fields in their order, of
which the last ones may be missing. Members that are no field are passed over. What is missing has
its default.

A name of a grammar or of a family of providers may also stand as the only member of an object, with
null for its value.
-/

namespace SigilLookup

def ProviderKind.ofLabel? (text : String) : Option ProviderKind :=
  if text = "computed" then some .computed
  else if text = "constants" then some .constants
  else none

def Settings.toRecord (settings : Settings) : Json :=
  let paths (list : List Path) : Json := .arr (list.map fun path => .str path.display)
  Json.object
    [("grammar", .str settings.grammar.label),
      ("constants_files", paths settings.constantsFiles),
      ("file_constants_dirs", paths settings.fileConstantsDirs),
      ("fail_on_missing_dir", .bool settings.failOnMissingDir)]

namespace Record

def name? : Json → Option String
  | .str name => some name
  | .obj [(name, .null)] => some name
  | _ => none

def grammar? (value : Json) : Option Grammar := (name? value).bind Grammar.ofLabel?

def path? : Json → Option Path
  | .str text => some (Path.ofString text)
  | _ => none

def paths? : Json → Option (List Path)
  | .arr items => items.mapM path?
  | _ => none

def bool? : Json → Option Bool
  | .bool value => some value
  | _ => none

inductive Field where
  | grammar
  | constantsFiles
  | fileConstantsDirs
  | failOnMissingDir
deriving DecidableEq

namespace Field

def all : List Field := [.grammar, .constantsFiles, .fileConstantsDirs, .failOnMissingDir]

def label : Field → String
  | .grammar => "grammar"
  | .constantsFiles => "constants_files"
  | .fileConstantsDirs => "file_constants_dirs"
  | .failOnMissingDir => "fail_on_missing_dir"

def ofLabel? (name : String) : Option Field := all.find? fun field => field.label = name

def set (field : Field) (value : Json) (settings : Settings) : Option Settings :=
  match field with
  | .grammar => do return { settings with grammar := ← grammar? value }
  | .constantsFiles => do return { settings with constantsFiles := ← paths? value }
  | .fileConstantsDirs => do return { settings with fileConstantsDirs := ← paths? value }
  | .failOnMissingDir => do return { settings with failOnMissingDir := ← bool? value }

end Field

/-- The settings of the values of the fields in their order. -/
def ofItems? : List Field → List Json → Settings → Option Settings
  | _, [], settings => some settings
  | field :: fields, value :: values, settings => do
    ofItems? fields values (← field.set value settings)
  | [], _ :: _, _ => none

/-- Reads the members of an object up to its closing brace, at least one. The fields that may
still be set are those of `fields`; the bound is on the number of members. -/
def members : Nat → List Field → Settings → List Char → Option (Settings × List Char)
  | 0, _, _, _ => none
  | bound + 1, fields, settings, cs => do
    let rest ← match Json.skipBlanks cs with
      | '"' :: rest => some rest
      | _ => none
    let (name, rest) ← Json.stringRest [] rest
    let rest ← match Json.skipBlanks rest with
      | ':' :: rest => some rest
      | _ => none
    let (unset, settings, rest) ← match Field.ofLabel? name with
      | some field =>
        if fields.contains field then do
          let (value, rest) ← Json.value rest.length (Json.maxDepth - 1) rest
          let settings ← field.set value settings
          some (fields.erase field, settings, rest)
        else none
      | none => do
        let rest ← Json.skipValue rest
        some (fields, settings, rest)
    match Json.skipBlanks rest with
    | ',' :: rest => members bound unset settings rest
    | '\x7d' :: rest => some (settings, rest)
    | _ => none

def read (cs : List Char) : Option (Settings × List Char) :=
  match Json.skipBlanks cs with
  | '\x7b' :: rest =>
    match Json.skipBlanks rest with
    | '\x7d' :: rest => some ({}, rest)
    | rest => members rest.length Field.all {} rest
  | cs => do
    match ← Json.value cs.length Json.maxDepth cs with
    | (.arr items, rest) => do return (← ofItems? Field.all items {}, rest)
    | _ => none

end Record

def Settings.ofRecord? (text : String) : Option Settings := do
  let (settings, rest) ← Record.read text.toList
  if (Json.skipBlanks rest).isEmpty then some settings else none

end SigilLookup
