import SigilLookup.FileSystem.Basic

/-!
# Listings

A listing is a file system given by a table of paths. The exact bytes of a path select its entry, so
`d` and `d/` are different paths, and a directory lists the paths it was given in the order in which
it was given them. An entry may also be broken: it is a file or a directory, and cannot be read.
-/

namespace SigilLookup

inductive ListingEntry where
  | file (content : List UInt8)
  | dir (paths : List Path)
  /-- An entry that cannot be read: the error for the path asked for, and whether the entry is
  a directory. -/
  | broken (error : Path → FileSystemError) (isDir : Bool)

/-- A file system given by a table of paths; of entries for one path the last counts. -/
structure Listing where
  entries : List (Path × ListingEntry)

namespace Listing

def entry? (listing : Listing) (path : Path) : Option ListingEntry :=
  listing.entries.reverse.lookup path

def content (listing : Listing) (path : Path) : Except FileSystemError (List UInt8) :=
  match listing.entry? path with
  | some (.file content) => .ok content
  | some (.dir _) => .error (.io "is a directory")
  | some (.broken error _) => .error (error path)
  | none => .error (.notFound path)

def paths (listing : Listing) (path : Path) : Except FileSystemError (List Path) :=
  match listing.entry? path with
  | some (.dir paths) => .ok paths
  | some (.file _) => .error (.io "is a file")
  | some (.broken error _) => .error (error path)
  | none => .error (.notFound path)

def isDir (listing : Listing) (path : Path) : Bool :=
  match listing.entry? path with
  | some (.dir _) => true
  | some (.broken _ isDir) => isDir
  | _ => false

def isFile (listing : Listing) (path : Path) : Bool :=
  match listing.entry? path with
  | some (.file _) => true
  | some (.broken _ isDir) => !isDir
  | _ => false

def fileSystem (listing : Listing) : FileSystem :=
  .ofBytes listing.content listing.isDir listing.isFile listing.paths

end Listing

end SigilLookup
