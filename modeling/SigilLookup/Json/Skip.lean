import SigilLookup.Json.Reader

/-!
# Passing over JSON

A value that nobody asks for is checked for its form and not read: it may nest as deep as it
likes, its numbers may be of any magnitude, and its strings may hold halves of surrogate pairs.
-/

namespace SigilLookup.Json

/-- An array or object that a place lies in. -/
inductive Frame where
  | array
  | object
deriving DecidableEq

def skipString : List Char → Option (List Char)
  | [] => none
  | '"' :: rest => some rest
  | '\\' :: 'u' :: a :: b :: c :: d :: rest =>
    if (hexQuad? a b c d).isSome then skipString rest else none
  | '\\' :: letter :: rest => if (letterEscape? letter).isSome then skipString rest else none
  | c :: rest => if c = '\\' ∨ c < ' ' then none else skipString rest

def skipNumber (cs : List Char) : Option (List Char) := do
  let cs := match cs with
    | '-' :: rest => rest
    | cs => cs
  let whole := cs.takeWhile Char.isDigit
  if whole.isEmpty ∨ (whole.head? = some '0' ∧ whole ≠ ['0']) then none
  else
    let (_, rest) ← fractionPart (cs.dropWhile Char.isDigit)
    let (_, rest) ← exponentPart rest
    return rest

/-- Passes over a value that is neither array nor object. -/
def skipScalar : List Char → Option (List Char)
  | 'n' :: 'u' :: 'l' :: 'l' :: rest => some rest
  | 't' :: 'r' :: 'u' :: 'e' :: rest => some rest
  | 'f' :: 'a' :: 'l' :: 's' :: 'e' :: rest => some rest
  | '"' :: rest => skipString rest
  | cs => skipNumber cs

/-- Passes over the name of a member and the colon after it. -/
def skipName (cs : List Char) : Option (List Char) :=
  match skipBlanks cs with
  | '"' :: rest => do
    match skipBlanks (← skipString rest) with
    | ':' :: rest => some rest
    | _ => none
  | _ => none

/-- Passes over what follows a value within frames, up to the next value or the end of the outermost
frame: the frames that are still open, and what is left. -/
def afterValue : List Frame → List Char → Option (List Frame × List Char)
  | [], rest => some ([], rest)
  | frame :: frames, rest =>
    match frame, skipBlanks rest with
    | .array, ',' :: rest => some (.array :: frames, rest)
    | .object, ',' :: rest => do return (.object :: frames, ← skipName rest)
    | .array, ']' :: rest => afterValue frames rest
    | .object, '\x7d' :: rest => afterValue frames rest
    | _, _ => none

/-- Passes over the start of a value within frames, or over all of it. -/
def enterValue (frames : List Frame) (cs : List Char) : Option (List Frame × List Char) :=
  match skipBlanks cs with
  | '[' :: rest =>
    match skipBlanks rest with
    | ']' :: rest => afterValue frames rest
    | rest => some (.array :: frames, rest)
  | '\x7b' :: rest =>
    match skipBlanks rest with
    | '\x7d' :: rest => afterValue frames rest
    | rest => do return (.object :: frames, ← skipName rest)
  | cs => do afterValue frames (← skipScalar cs)

/-- Passes over values up to the end of the outermost frame. Every value has a character of its own,
which bounds their number. -/
def skipValues : Nat → List Frame → List Char → Option (List Char)
  | 0, _, _ => none
  | bound + 1, frames, cs => do
    match ← enterValue frames cs with
    | ([], rest) => some rest
    | (frames, rest) => skipValues bound frames rest

def skipValue (cs : List Char) : Option (List Char) := skipValues (cs.length + 1) [] cs

end SigilLookup.Json
