import SigilLookup.Settings.Toml.Scalar
import SigilLookup.Settings.Toml.Table

/-!
# TOML

`Toml.read?` reads a text of lines, each a header, a key with its value, or blank. Values are
scalars, arrays and inline tables, and the latter two may run over several lines. Control
characters are refused throughout, also in comments.
-/

namespace SigilLookup.Toml

open Reading

/-! ### Blanks and ends of lines -/

def skipLines (inComment : Bool) : List Char → Option (List Char)
  | [] => some []
  | c :: rest =>
    if startsBreak (c :: rest) then skipLines false rest
    else if inComment then if isPlain c then skipLines true rest else none
    else if isBlank c then skipLines false rest
    else if c = '#' then skipLines true rest
    else some (c :: rest)

/-- Passes over blanks, a comment and the line break at the end of a line; none if something else is
there. -/
def skipLineEnd? (inComment : Bool) : List Char → Option (List Char)
  | [] => some []
  | c :: rest =>
    if startsBreak (c :: rest) then some (dropBreak (c :: rest))
    else if inComment then if isPlain c then skipLineEnd? true rest else none
    else if isBlank c then skipLineEnd? false rest
    else if c = '#' then skipLineEnd? true rest
    else none

def skipBlanks (cs : List Char) : List Char := cs.dropWhile isBlank

/-! ### Keys -/

def isKeyChar (c : Char) : Bool := c.isAlphanum || c == '_' || c == '-'

def name : Reader String
  | '"' :: rest => basicRest [] rest
  | '\'' :: rest => literalRest [] rest
  | cs =>
    let bare := cs.takeWhile isKeyChar
    if bare.isEmpty then none else some (String.ofList bare, cs.dropWhile isKeyChar)

/-- Reads names with dots between them and blanks around them. The bound is on their number. -/
def names : Nat → Reader (List String)
  | 0, _ => none
  | bound + 1, cs => do
    let (first, rest) ← name (skipBlanks cs)
    match skipBlanks rest with
    | '.' :: rest => do
      let (more, rest) ← names bound rest
      return (first :: more, rest)
    | rest => some ([first], rest)

/-- The deepest nesting that is read, of arrays and inline tables as well as of names in a key. -/
def maxDepth : Nat := 80

def key : Reader (List String) := names maxDepth

/-! ### Values -/

def pair (value : Reader Setting) : Reader (List String × Setting) := fun cs => do
  let (names, rest) ← key cs
  match rest with
  | '=' :: rest => do
    let (setting, rest) ← value (skipBlanks rest)
    return ((names, setting), rest)
  | _ => none

def inlineTable (pairs : List (List String × Setting)) : Option Setting := do
  let parts ← pairs.foldlM (fun parts (names, setting) => Parts.assign names setting parts) []
  return .table (Part.settings parts)

/-- Reads a value whose arrays and inline tables nest at most `depth` deep. -/
def value (bound : Nat) : Nat → Reader Setting
  | depth, cs =>
    match cs, depth with
    | '[' :: rest, depth + 1 => do
      let (items, rest) ← separated (skipLines false) (value bound depth) ']' bound [] rest
      return (.list items, rest)
    | '\x7b' :: rest, depth + 1 => do
      let (pairs, rest) ←
        separated (skipLines false) (pair (value bound depth)) '\x7d' bound [] rest
      return (← inlineTable pairs, rest)
    | c :: rest, _ =>
      if c = '"' ∨ c = '\'' then do
        let (text, rest) ← string? (c :: rest)
        return (.text text, rest)
      else word (c :: rest)
    | [], _ => none

/-! ### Lines -/

/-- The tables read so far, and the path of the header that the next keys belong to. -/
structure Draft where
  parts : Parts := []
  path : List String := []

/-- Reads one line that is not blank. -/
def line (bound : Nat) (draft : Draft) : Reader Draft
  | '[' :: '[' :: rest => do
    let (path, rest) ← key rest
    match rest with
    | ']' :: ']' :: rest => do return ({ parts := ← draft.parts.append path, path }, rest)
    | _ => none
  | '[' :: rest => do
    let (path, rest) ← key rest
    match rest with
    | ']' :: rest => do return ({ parts := ← draft.parts.define path, path }, rest)
    | _ => none
  | cs => do
    let ((names, setting), rest) ← pair (value bound maxDepth) cs
    let parts ← draft.parts.atHeader draft.path fun parts => parts.assign names setting
    return ({ draft with parts }, rest)

/-- Reads lines up to the end of the text. The bound is on their number. -/
def lines (bound : Nat) : Nat → Draft → List Char → Option Draft
  | 0, _, _ => none
  | more + 1, draft, cs => do
    match ← skipLines false cs with
    | [] => some draft
    | cs => do
      let (draft, rest) ← line bound draft cs
      lines bound more draft (← skipLineEnd? false rest)

def read? (text : String) : Option Setting := do
  let cs := text.toList
  let draft ← lines (cs.length + 1) (cs.length + 1) {} cs
  return .table (Part.settings draft.parts)

end SigilLookup.Toml
