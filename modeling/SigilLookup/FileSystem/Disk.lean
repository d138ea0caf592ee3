import SigilLookup.FileSystem.System

/-!
# Disks

A disk is a tree of directories, files and symbolic links with a working directory. A path is
walked part by part: each part is looked up in the directory reached so far, and a link is
replaced by the path it holds, at most forty times in one walk. What the walk can meet is a
`Fault`; the operating system of the disk reports where nothing is found as a kind of failure, and
gives the text of the others.
-/

namespace SigilLookup

inductive Node where
  | file (content : List UInt8)
  | link (target : List UInt8)
  | dir (entries : List (List UInt8 × Node))
deriving Inhabited

inductive Fault where
  | missing
  | notDirectory
  | isDirectory
  | nameTooLong
  | tooManyLinks
  | nulByte
deriving DecidableEq

def Fault.message : Fault → String
  | .missing => "No such file or directory (os error 2)"
  | .notDirectory => "Not a directory (os error 20)"
  | .isDirectory => "Is a directory (os error 21)"
  | .nameTooLong => "File name too long (os error 36)"
  | .tooManyLinks => "Too many levels of symbolic links (os error 40)"
  | .nulByte => "file name contained an unexpected NUL byte"

def Fault.failure (fault : Fault) : SystemFailure :=
  ⟨if fault = .missing then .notFound else .other, fault.message⟩

/-- A tree of files and the directory that relative paths start from, given by the names on the way
to it from the root. -/
structure Disk where
  root : Node
  workingDir : List (List UInt8)

namespace Disk

def maxName : Nat := 255

/-- The length that a whole path must stay below. -/
def maxPath : Nat := 4096

/-- How many links one walk replaces. -/
def maxLinks : Nat := 40

def find? : Node → List (List UInt8) → Option Node
  | node, [] => some node
  | .dir entries, name :: rest =>
    match entries.lookup name with
    | some node => find? node rest
    | none => none
  | _, _ :: _ => none

/-- The parts of a path. Slashes in a row count as one, and a slash at the end asks for
a directory, which the part `.` does as well. -/
def parts (bytes : List UInt8) : List (List UInt8) :=
  let split := splitOn Path.slash bytes
  split.dropLast.filter (· ≠ []) ++ split.getLast?.toList.map fun part =>
    if part = [] then Path.here else part

/-- Walks from a place along parts, and gives the place reached. The bound on links counts those
that may still be replaced. -/
def walk (root : Node) (links : Nat) (place : List (List UInt8)) :
    List (List UInt8) → Except Fault (List (List UInt8))
  | [] => .ok place
  | part :: rest =>
    match find? root place with
    | some (.dir entries) =>
      if part = Path.here then walk root links place rest
      else if part = Path.up then walk root links place.dropLast rest
      else if maxName < part.length then .error .nameTooLong
      else
        match entries.lookup part with
        | none => .error .missing
        | some (.link target) =>
          match links with
          | 0 => .error .tooManyLinks
          | links + 1 =>
            walk root links (if target.head? = some Path.slash then [] else place)
              (parts target ++ rest)
        | some _ => walk root links (place ++ [part]) rest
    | _ => .error .notDirectory
termination_by remaining => (links, remaining.length)

def locate (disk : Disk) (path : Path) : Except Fault (List (List UInt8)) :=
  if path.bytes.contains 0 then .error .nulByte
  else if path.bytes = [] then .error .missing
  else if maxPath ≤ path.bytes.length then .error .nameTooLong
  else
    walk disk.root maxLinks (if path.isAbsolute then [] else disk.workingDir) (parts path.bytes)

def node (disk : Disk) (path : Path) : Except Fault Node := do
  let place ← disk.locate path
  match find? disk.root place with
  | some node => .ok node
  | none => .error .missing

def content (disk : Disk) (path : Path) : Except Fault (List UInt8) := do
  match ← disk.node path with
  | .file content => .ok content
  | .dir _ => .error .isDirectory
  | .link _ => .error .tooManyLinks

def isDir (disk : Disk) (path : Path) : Bool :=
  match disk.node path with
  | .ok (.dir _) => true
  | _ => false

def isFile (disk : Disk) (path : Path) : Bool :=
  match disk.node path with
  | .ok (.file _) => true
  | _ => false

/-- The names in a directory, in ascending order of their bytes. -/
def names (disk : Disk) (path : Path) : Except Fault (List (List UInt8)) := do
  match ← disk.node path with
  | .dir entries => .ok ((entries.map Prod.fst).mergeSort fun x y => decide (x ≤ y))
  | _ => .error .notDirectory

/-! ### The disk as a file system -/

def read (disk : Disk) (path : Path) : Except SystemFailure (List UInt8) :=
  (disk.content path).mapError Fault.failure

def readText (disk : Disk) (path : Path) : Except SystemFailure String := do
  let content ← disk.read path
  match Utf8.decode? content with
  | some text => .ok text
  | none => .error ⟨.invalidData, "stream did not contain valid UTF-8"⟩

def system (disk : Disk) : System := ⟨disk.read, disk.readText⟩

/-- The paths in a directory, in ascending order. -/
def paths (disk : Disk) (path : Path) : Except FileSystemError (List Path) :=
  ((disk.names path).map fun names => names.map path.join).mapError fun fault =>
    fault.failure.error path

def fileSystem (disk : Disk) : FileSystem :=
  .ofSystem disk.system disk.isDir disk.isFile disk.paths

/-! ### Building a disk -/

/-- An empty disk whose working directory is `/tmp/work`. -/
def fresh : Disk :=
  let name (text : String) := Utf8.encode text
  ⟨.dir [(name "tmp", .dir [(name "work", .dir [])])], [name "tmp", name "work"]⟩

def putEntry (name : List UInt8) (node : Node) :
    List (List UInt8 × Node) → List (List UInt8 × Node)
  | [] => [(name, node)]
  | (key, old) :: rest =>
    if key = name then (key, node) :: rest else (key, old) :: putEntry name node rest

/-- Puts a node at a place; what is missing on the way becomes a directory. -/
def putNode (new : Node) : Node → List (List UInt8) → Node
  | _, [] => new
  | .dir entries, name :: rest =>
    .dir (putEntry name (putNode new ((entries.lookup name).getD (.dir [])) rest) entries)
  | old, _ :: _ => old

def put (disk : Disk) (place : List (List UInt8)) (new : Node) : Disk :=
  { disk with root := putNode new disk.root place }

/-- Goes along parts, making the directories that are missing. -/
def enter (disk : Disk) (place : List (List UInt8)) :
    List (List UInt8) → Disk × List (List UInt8)
  | [] => (disk, place)
  | part :: rest =>
    match walk disk.root maxLinks place [part] with
    | .ok next => disk.enter next rest
    | .error _ => (disk.put (place ++ [part]) (.dir [])).enter (place ++ [part]) rest

def start (disk : Disk) (path : Path) : List (List UInt8) :=
  if path.isAbsolute then [] else disk.workingDir

/-- Makes a directory, with the directories above it. -/
def addDir (disk : Disk) (path : Path) : Disk :=
  (disk.enter (disk.start path) (parts path.bytes)).1

/-- Enters the directory of a path; the last part is left. -/
def enterParent (disk : Disk) (path : Path) : Disk × List (List UInt8) × Option (List UInt8) :=
  let all := parts path.bytes
  let (disk, place) := disk.enter (disk.start path) all.dropLast
  (disk, place, all.getLast?)

/-- The place where a file of a directory is written: a link leads on to its target, also to one
that is not there yet. -/
def landing (root : Node) : Nat → List (List UInt8) → List UInt8 → List (List UInt8)
  | 0, place, name => place ++ [name]
  | links + 1, place, name =>
    match find? root (place ++ [name]) with
    | some (.link target) =>
      let start := if target.head? = some Path.slash then [] else place
      match walk root links start (parts target).dropLast, (parts target).getLast? with
      | .ok next, some last => landing root links next last
      | _, _ => place ++ [name]
    | _ => place ++ [name]

/-- Writes a file, through links if there are any. -/
def addFile (disk : Disk) (path : Path) (content : List UInt8) : Disk :=
  let (disk, place, last) := disk.enterParent path
  match last with
  | some name => disk.put (landing disk.root maxLinks place name) (.file content)
  | none => disk

def addLink (disk : Disk) (path : Path) (target : List UInt8) : Disk :=
  let (disk, place, last) := disk.enterParent path
  disk.put (place ++ last.toList) (.link target)

end Disk

end SigilLookup
