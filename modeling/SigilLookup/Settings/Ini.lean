import SigilLookup.Settings.Setting
import SigilLookup.Text.Split

/-!
# INI

`Ini.read?` reads properties, each a key and a value with an equals sign or a colon between them,
and section headers in square brackets. All values are texts. The properties before the first
header belong to the whole, those of a section to a table with its name; of sections of one name,
and of properties of one key, the last counts.

A value ends with its line, a key only at the sign after it. Line breaks between quotes belong to
the value, and a backslash starts an escape everywhere; blanks around keys, values and names of
sections do not count, except those next to a quoted part of a value and within it. A comment takes
a whole line, from its first character on.

A line that begins with a blank is no comment, whatever follows. What stands there is a key, but if
it cannot be read as one it is passed over as far as it was read.
-/

namespace SigilLookup.Ini

open Reading

def unescape (c : Char) : Char :=
  if c = '0' then '\x00'
  else if c = 'a' then '\x07'
  else if c = 'b' then '\x08'
  else if c = 't' then '\t'
  else if c = 'r' then '\r'
  else if c = 'n' then '\n'
  else c

/-- The character of a code in four hexadecimal digits; a sign may stand for the first of them. -/
def codeUnit? (digits : List Char) : Option Char := do
  let code ← match digits with
    | '+' :: rest => Numeral.natural? 16 rest
    | digits => Numeral.natural? 16 digits
  if code < 0xD800 ∨ 0xE000 ≤ code then some (Char.ofNat code) else none

/-- Where the reading of a code that is ill formed stops: at its last digit, or after a backslash
that no line break follows. -/
def codeStop : Nat → List Char → List Char
  | _, [] => []
  | left, '\\' :: '\n' :: rest => if left = 0 then '\n' :: rest else codeStop (left - 1) rest
  | _, '\\' :: rest => rest
  | 0, cs => cs
  | left + 1, _ :: rest => codeStop left rest

/-- Reads up to a character that ends the text, which is left; `read` holds the characters so far,
last one first. An escaped line break joins two lines. At the end of everything the text ends only
if `atEnd` allows it. A failure tells what is left where the reading stops. -/
def textUntil (ends : Char → Bool) (atEnd : Bool) (read : List Char) :
    List Char → Except (List Char) (List Char × List Char)
  | '\\' :: 'x' :: a :: b :: c :: d :: rest =>
    match codeUnit? [a, b, c, d] with
    | some code => textUntil ends atEnd (code :: read) rest
    | none => .error (codeStop 3 (a :: b :: c :: d :: rest))
  | '\\' :: '\n' :: rest => textUntil ends atEnd read rest
  | ['\\'] => if atEnd then .ok (('\\' :: read).reverse, []) else .error []
  | '\\' :: c :: rest =>
    if c = 'x' then .error (codeStop 3 rest) else textUntil ends atEnd (unescape c :: read) rest
  | c :: rest =>
    if ends c then .ok (read.reverse, c :: rest) else textUntil ends atEnd (c :: read) rest
  | [] => if atEnd then .ok (read.reverse, []) else .error []

def textUntil? (ends : Char → Bool) (atEnd : Bool) : Reader (List Char) := fun cs =>
  (textUntil ends atEnd [] cs).toOption

def isLineEnd (c : Char) : Bool := c == '\n' || c == '\r'

/-- Reads a value to the end of its line: quoted parts as they are, and the rest without the blanks
at its end, and without those at its start if no quoted part precedes it. `read` holds the quoted
parts so far, and the bound is on their number. -/
def value : Nat → List (List Char) → Reader (List Char)
  | 0, _, _ => none
  | bound + 1, read, cs =>
    match cs with
    | [] => some (read.flatten, [])
    | c :: rest =>
      if c = '"' ∨ c = '\'' then do
        let (text, rest) ← textUntil? (· == c) false rest
        value bound (read ++ [text]) (rest.drop 1)
      else do
        let (text, rest) ← textUntil? isLineEnd true (c :: rest)
        return (read.flatten ++ if read.isEmpty then trim text else trimRight text, rest)

/-- The properties and sections read so far; no name stands for the properties before the first
header. -/
structure Draft where
  sections : List (Option String × List (String × Setting)) := []

namespace Draft

def property (draft : Draft) (key value : String) : Draft :=
  match draft.sections.getLast? with
  | some (name, entries) =>
    ⟨draft.sections.dropLast ++ [(name, Entries.insert key (.text value) entries)]⟩
  | none => ⟨[(none, [(key, .text value)])]⟩

def header (draft : Draft) (name : String) : Draft :=
  ⟨draft.sections ++ [(some name, [])]⟩

def setting (draft : Draft) : Setting :=
  .table (draft.sections.foldl (fun names (name, entries) =>
    match name with
    | some name => Entries.insert name (.table entries) names
    | none => entries) [])

end Draft

/-- Blanks that may start a key. -/
def isBlank (c : Char) : Bool := c == ' ' || c == '\t'

/-- Passes over white space, but not over a blank at the start of a line; tells whether a line
starts at the place reached. -/
def skipBlanks (atLineStart : Bool) : List Char → Bool × List Char
  | [] => (atLineStart, [])
  | c :: rest =>
    if isWhiteSpace c ∧ ¬ (atLineStart ∧ isBlank c) then skipBlanks (c == '\n') rest
    else (atLineStart, c :: rest)

/-- Tells whether a line starts where `rest` is left of some characters. -/
def startsLine (cs rest : List Char) : Bool :=
  (cs.take (cs.length - rest.length)).getLast? == some '\n'

def endsKey (c : Char) : Bool := c == '=' || c == ':'

/-- Reads comments, headers and properties up to the end of the text. The bound is on their
number. -/
def parts : Nat → Draft → Bool → List Char → Option Draft
  | 0, _, _, _ => none
  | bound + 1, draft, atLineStart, cs =>
    match skipBlanks atLineStart cs with
    | (_, []) => some draft
    | (atLineStart, c :: rest) =>
      if c = ';' ∨ c = '#' then
        if atLineStart then parts bound draft true ((rest.dropWhile (· != '\n')).drop 1) else none
      else if c = '[' then do
        let (name, rest) ← textUntil? (· == ']') false rest
        parts bound (draft.header (String.ofList (trim name))) false (rest.drop 1)
      else
        let cs := (c :: rest).dropWhile isBlank
        match textUntil endsKey false [] cs with
        | .error rest =>
          if isBlank c then parts bound draft (startsLine cs rest) rest else none
        | .ok (key, rest) => do
          let key := trim key
          if key.isEmpty then none
          else
            let (text, rest) ← value (rest.length + 1) []
              ((rest.drop 1).dropWhile fun c => isWhiteSpace c && !isLineEnd c)
            parts bound (draft.property (String.ofList key) (String.ofList text)) false rest

def read? (text : String) : Option Setting :=
  (parts (text.length + 1) {} true text.toList).map Draft.setting

end SigilLookup.Ini
