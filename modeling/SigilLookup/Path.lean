import SigilLookup.Text.Split
import SigilLookup.Text.Utf8

/-!
# Paths

A path is a sequence of bytes, its parts separated by slashes. The file name is the last part once
slashes and parts `.` at the end are passed over; a path that then ends in `..`, or has no part
left, has none. The extension is what follows the last dot of the file name, unless that dot is
its first character, and the stem is what precedes it.
-/

namespace SigilLookup

structure Path where
  bytes : List UInt8
deriving DecidableEq

namespace Path

def slash : UInt8 := 0x2F

def dot : UInt8 := 0x2E

def here : List UInt8 := [dot]

def up : List UInt8 := [dot, dot]

def ofString (text : String) : Path := ⟨Utf8.encode text⟩

/-- The path as text, with U+FFFD where it is ill formed. -/
def display (path : Path) : String := Utf8.decodeLossy path.bytes

def isAbsolute (path : Path) : Bool := path.bytes.head? == some slash

/-- Drops slashes and parts `.` from the end of a path given backwards. -/
def dropTrailing : List UInt8 → List UInt8
  | [] => []
  | [byte] => if byte = slash then [] else [byte]
  | byte :: before :: rest =>
    if byte = slash then dropTrailing (before :: rest)
    else if byte = dot ∧ before = slash then dropTrailing (before :: rest)
    else byte :: before :: rest

/-- The path up to its last part and that part, slashes and parts `.` at the end dropped. -/
def splitName (path : Path) : List UInt8 × List UInt8 :=
  let backwards := dropTrailing path.bytes.reverse
  ((backwards.dropWhile (· != slash)).reverse, (backwards.takeWhile (· != slash)).reverse)

def fileName? (path : Path) : Option (List UInt8) :=
  let name := path.splitName.2
  if name = [] ∨ name = here ∨ name = up then none else some name

/-- A file name cut at its last dot, unless that is its first character. -/
def splitExtension (name : List UInt8) : List UInt8 × Option (List UInt8) :=
  match splitLast? dot name with
  | some (stem, extension) => if stem = [] then (name, none) else (stem, some extension)
  | none => (name, none)

def fileStem? (path : Path) : Option (List UInt8) := path.fileName?.map fun name =>
  (splitExtension name).1

def extension? (path : Path) : Option (List UInt8) :=
  path.fileName?.bind fun name => (splitExtension name).2

/-- The path with another extension, or the path itself if it has no file name. -/
def withExtension (path : Path) (extension : List UInt8) : Path :=
  match path.fileName? with
  | none => path
  | some name => ⟨path.splitName.1 ++ (splitExtension name).1 ++ dot :: extension⟩

def join (dir : Path) (part : List UInt8) : Path :=
  if part.head? = some slash ∨ dir.bytes = [] then ⟨part⟩
  else if dir.bytes.getLast? = some slash then ⟨dir.bytes ++ part⟩
  else ⟨dir.bytes ++ slash :: part⟩

end Path

end SigilLookup
