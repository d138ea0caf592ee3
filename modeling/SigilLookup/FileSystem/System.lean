import SigilLookup.FileSystem.Basic

/-!
# Files of the operating system

The operating system has one call that reads the content of a file and one that reads its text. A
call that fails gives the kind of the failure and a text for it; kinds that a caller can act on
become errors of their own. `FileSystem.ofSystem` asks for texts by the call for texts, and does not
decode contents itself as `FileSystem.ofBytes` does.
-/

namespace SigilLookup

/-- The kinds of failure that are told apart. -/
inductive FailureKind where
  | notFound
  | permissionDenied
  /-- The data is not what was asked for: a text is asked for, and the file holds none. -/
  | invalidData
  | other
deriving DecidableEq

structure SystemFailure where
  kind : FailureKind
  text : String
deriving DecidableEq

namespace SystemFailure

def error (path : Path) (failure : SystemFailure) : FileSystemError :=
  match failure.kind with
  | .notFound => .notFound path
  | .permissionDenied => .permissionDenied path
  | _ => .io failure.text

def textError (path : Path) (failure : SystemFailure) : FileSystemError :=
  if failure.kind = .invalidData then .invalidUtf8 path else failure.error path

end SystemFailure

/-- What the operating system answers to a caller that reads files. -/
structure System where
  content : Path → Except SystemFailure (List UInt8)
  text : Path → Except SystemFailure String

def FileSystem.ofSystem (system : System) (isDir isFile : Path → Bool)
    (paths : Path → Except FileSystemError (List Path)) : FileSystem where
  content path := (system.content path).mapError (SystemFailure.error path)
  text path := (system.text path).mapError (SystemFailure.textError path)
  isDir := isDir
  isFile := isFile
  paths := paths

end SigilLookup
