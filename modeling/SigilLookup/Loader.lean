import SigilLookup.Document
import SigilLookup.Event
import SigilLookup.FileSystem.Basic
import SigilLookup.Provider

/-!
# Loading constants

Constants come from documents, whose top level must be an object, and file constants from
directories: every regular file of a directory becomes a constant named after its stem, its
content being the value. Of files with one stem the one listed last gives the value.

A loading that succeeds comes with the event that tells of it; one that fails reports its first
fault and leaves no event.
-/

namespace SigilLookup

inductive LoaderError where
  | fileSystem (error : FileSystemError)
  | unsupportedFormat (path : Path)
  | parse (path : Path) (format : DocumentFormat)
  | notAnObject (path : Path)
  | notADirectory (path : Path)
  /-- A file's name cannot name a constant. -/
  | invalidFileName (path : Path)
deriving DecidableEq

/-- The text of the error, up to the reason that a format's reader gives. -/
def LoaderError.message : LoaderError → String
  | .fileSystem error => "file system error: " ++ error.message
  | .unsupportedFormat path => "unsupported constants file: " ++ path.display
  | .parse path format => "failed to parse " ++ path.display ++ ": " ++ format.failure
  | .notAnObject path =>
    "constants file " ++ path.display ++ " must contain an object at the top level"
  | .notADirectory path => "not a directory: " ++ path.display
  | .invalidFileName path => "file name is not valid UTF-8: " ++ path.display

namespace Loader

def constantsFile (fs : FileSystem) (path : Path) : Except LoaderError (ConstantMap × Event) := do
  let format ← match DocumentFormat.ofPath? path with
    | some format => .ok format
    | none => .error (.unsupportedFormat path)
  let text ← (fs.text path).mapError .fileSystem
  let document ← match format.read? text with
    | some document => .ok document
    | none => .error (.parse path format)
  match ConstantMap.ofJson? document with
  | some constants => .ok (constants, .loadedConstantsFile path.display constants.size)
  | none => .error (.notAnObject path)

/-- The name of the constant that a file becomes: its stem. -/
def constantName? (path : Path) : Option String := path.fileStem?.bind Utf8.decode?

/-- Adds one entry of a directory to the file constants; what is not a file is left out. -/
def addEntry (fs : FileSystem) (constants : ConstantMap) (path : Path) :
    Except LoaderError ConstantMap :=
  if fs.isFile path then do
    let name ← match constantName? path with
      | some name => .ok name
      | none => .error (.invalidFileName path)
    let content ← (fs.content path).mapError .fileSystem
    return constants.insert name (.bytes content)
  else .ok constants

def fileConstantsDir (fs : FileSystem) (dir : Path) : Except LoaderError (ConstantMap × Event) := do
  if fs.isDir dir then
    let paths ← (fs.paths dir).mapError .fileSystem
    let constants ← paths.foldlM (addEntry fs) .empty
    return (constants, .loadedFileConstants dir.display constants.size)
  else .error (.notADirectory dir)

def constantsProvider (fs : FileSystem) (path : Path) :
    Except LoaderError (ConstantsProvider × Event) := do
  let (constants, event) ← constantsFile fs path
  return ({ constants }, event)

def fileConstantsProvider (fs : FileSystem) (dir : Path) :
    Except LoaderError (ConstantsProvider × Event) := do
  let (fileConstants, event) ← fileConstantsDir fs dir
  return ({ fileConstants }, event)

end Loader

end SigilLookup
