import SigilLookup.Path

/-!
# File systems

Read-only access to files. `FileSystem.ofBytes` builds a file system whose texts are its contents
read as UTF-8; a file system may also read texts in a way of its own.
-/

namespace SigilLookup

/-- Why a file or directory cannot be read. -/
inductive FileSystemError where
  /-- Any failure without a constructor of its own. -/
  | io (text : String)
  | notFound (path : Path)
  | permissionDenied (path : Path)
  | invalidUtf8 (path : Path)
deriving DecidableEq

def FileSystemError.message : FileSystemError → String
  | .io text => "I/O error: " ++ text
  | .notFound path => "not found: " ++ path.display
  | .permissionDenied path => "permission denied: " ++ path.display
  | .invalidUtf8 path => "invalid UTF-8 in " ++ path.display

/-- Read-only access to files. -/
structure FileSystem where
  content : Path → Except FileSystemError (List UInt8)
  text : Path → Except FileSystemError String
  isDir : Path → Bool
  isFile : Path → Bool
  paths : Path → Except FileSystemError (List Path)

namespace FileSystem

def textOf (path : Path) (content : List UInt8) : Except FileSystemError String :=
  match Utf8.decode? content with
  | some text => .ok text
  | none => .error (.invalidUtf8 path)

/-- A file system that reads texts by reading contents. -/
def ofBytes (content : Path → Except FileSystemError (List UInt8)) (isDir isFile : Path → Bool)
    (paths : Path → Except FileSystemError (List Path)) : FileSystem :=
  { content, isDir, isFile, paths
    text := fun path => (content path).bind (textOf path) }

end FileSystem

end SigilLookup
