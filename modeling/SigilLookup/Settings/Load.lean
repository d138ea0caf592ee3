import SigilLookup.FileSystem.Basic
import SigilLookup.Settings.Environment
import SigilLookup.Settings.Format

/-!
# Loading settings

Settings are loaded from a file and the environment, the environment uppermost. The file is either
named, and must then be there, or it is the one named `sigil` in the working directory, which may
be missing.

A file is found under its own name if it is there, and its extension must then be that of a
format. Otherwise the extensions of the formats are tried after the name in turn. A byte order
mark at the start of the file is dropped, and ill-formed text is read with U+FFFD in its place.
-/

namespace SigilLookup

namespace SettingsFile

/-- The name of the file that is looked for if none is named. -/
def defaultPath : Path := Path.ofString "sigil"

/-- A path with a stand-in for an extension at its end, so that a format's extension can take its
place. -/
def withStandIn (path : Path) : Path := ⟨path.bytes ++ Utf8.encode ".placeholder"⟩

/-- The paths tried for a file that is not there under its own name. -/
def candidates (path : Path) : List (Path × SettingsFormat) :=
  SettingsFormat.extensions.map fun (extension, format) =>
    ((withStandIn path).withExtension (Utf8.encode extension), format)

def find? (fs : FileSystem) (path : Path) : Option (Path × SettingsFormat) :=
  if fs.isFile path then do
    return (path, ← SettingsFormat.ofExtension? (← path.extension?))
  else (candidates path).find? fun (candidate, _) => fs.isFile candidate

def byteOrderMark : List UInt8 := [0xEF, 0xBB, 0xBF]

def textOf (content : List UInt8) : String :=
  Utf8.decodeLossy (if byteOrderMark.isPrefixOf content then content.drop 3 else content)

/-- The text and the format of a file; none if there is no such file that can be read. -/
def text? (fs : FileSystem) (path : Path) : Option (String × SettingsFormat) := do
  let (path, format) ← find? fs path
  match fs.content path with
  | .ok content => some (textOf content, format)
  | .error _ => none

/-- The layer of a file. A file that is not of its format is an error even where a missing one is
not. -/
def layer? (fs : FileSystem) (path : Path) (required : Bool) : Option (List (String × Setting)) :=
  match text? fs path with
  | some (text, format) => format.read? text
  | none => if required then none else some []

end SettingsFile

def Settings.load? (fs : FileSystem) (file : Option Path) (environment : List (String × String)) :
    Option Settings := do
  let fileLayer ← SettingsFile.layer? fs (file.getD SettingsFile.defaultPath) file.isSome
  Settings.ofSetting? (.ofLayers [fileLayer, Environment.layer environment])

end SigilLookup
