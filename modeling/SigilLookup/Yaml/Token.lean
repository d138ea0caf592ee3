import SigilLookup.Decimal.Numeral
import SigilLookup.Text.Utf8
import SigilLookup.Yaml.Cursor

/-!
# YAML tokens

The words of a YAML text, and the readers of those that span more than one character: directives,
anchors, tags and the three kinds of scalar. Each reader takes the place where the word begins and
gives the word with the place after it, or nothing if the word is ill formed.
-/

namespace SigilLookup.Yaml

inductive Token where
  | streamEnd
  | version (major minor : Nat)
  | tagHandle (handle replacement : String)
  | documentStart
  | documentEnd
  | blockSequenceStart
  | blockMappingStart
  | blockEnd
  | flowSequenceStart
  | flowSequenceEnd
  | flowMappingStart
  | flowMappingEnd
  | blockEntry
  | flowEntry
  | key
  | value
  | alias (name : String)
  | anchor (name : String)
  | tag (handle suffix : String)
  | scalar (text : String) (plain : Bool)
deriving DecidableEq, Inhabited

/-! ### Tags -/

/-- Reads one character written as percent escapes of its bytes. -/
def readEscapedChar (cursor : Cursor) : Option (List Char × Cursor) := do
  let octet (cs : List Char) : Option UInt8 :=
    match cs with
    | '%' :: a :: b :: _ => (Numeral.natural? 16 [a, b]).map Nat.toUInt8
    | _ => none
  let first ← octet cursor.rest
  let width ←
    if first < 0x80 then some 1
    else if first &&& 0xE0 = 0xC0 then some 2
    else if first &&& 0xF0 = 0xE0 then some 3
    else if first &&& 0xF8 = 0xF0 then some 4
    else none
  let tail ← (List.range (width - 1)).mapM fun k => do
    let byte ← octet (cursor.rest.drop (3 * (k + 1)))
    if byte &&& 0xC0 = 0x80 then some byte else none
  return ((Utf8.decodeLossy (first :: tail)).toList, cursor.skip (3 * width))

/-- The characters of a tag besides letters and digits; a tag between angle brackets may contain
three more. -/
def isTagChar (verbatim : Bool) (c : Char) : Bool :=
  isWordChar c || ";/?:@&=+$.%!~*'()".toList.contains c ||
    (verbatim && [',', '[', ']'].contains c)

def readTagChars (verbatim : Bool) : Nat → Cursor → Option (List Char × Cursor)
  | 0, cursor => some ([], cursor)
  | bound + 1, cursor =>
    match cursor.rest with
    | [] => some ([], cursor)
    | c :: _ =>
      if isTagChar verbatim c then do
        let (read, cursor) ← if c = '%' then readEscapedChar cursor
          else some ([c], cursor.skip 1)
        let (more, cursor) ← readTagChars verbatim bound cursor
        return (read ++ more, cursor)
      else some ([], cursor)

def readTagWord (verbatim : Bool) (cursor : Cursor) : Option (List Char × Cursor) := do
  let (read, cursor) ← readTagChars verbatim cursor.rest.length cursor
  if read = [] then none else some (read, cursor)

/-- Reads a tag handle: an exclamation mark, letters, and a second mark if there is one. -/
def readHandle (cursor : Cursor) : Option (List Char × Cursor) :=
  if cursor.rest.head? = some '!' then
    let (word, cursor) := (cursor.skip 1).takeWhile isWordChar
    if cursor.rest.head? = some '!' then some ('!' :: (word ++ ['!']), cursor.skip 1)
    else some ('!' :: word, cursor)
  else none

def isWholeHandle (handle : List Char) : Bool :=
  1 < handle.length && handle.getLast? == some '!'

def readTag (inFlow : Bool) (cursor : Cursor) : Option (Token × Cursor) := do
  let (token, cursor) ←
    if (cursor.rest.drop 1).head? = some '<' then do
      let (suffix, cursor) ← readTagWord true (cursor.skip 2)
      if cursor.rest.head? = some '>' then
        some (Token.tag "" (String.ofList suffix), cursor.skip 1)
      else none
    else do
      let (handle, cursor) ← readHandle cursor
      if isWholeHandle handle then do
        let (suffix, cursor) ← readTagWord false cursor
        return (Token.tag (String.ofList handle) (String.ofList suffix), cursor)
      else do
        let (more, cursor) ← readTagChars false cursor.rest.length cursor
        let suffix := handle.drop 1 ++ more
        if suffix = [] then some (Token.tag "" "!", cursor)
        else some (Token.tag "!" (String.ofList suffix), cursor)
  if (inFlow ∧ cursor.rest.head? = some ',') ∨ endsWord cursor.rest then some (token, cursor)
  else none

/-! ### Directives and anchors -/

def readVersionNumber (cursor : Cursor) : Option (Nat × Cursor) :=
  let (digits, cursor) := cursor.takeWhile Char.isDigit
  if digits = [] ∨ 9 < digits.length then none else some (Numeral.ofDigits digits, cursor)

def readDirective (cursor : Cursor) : Option (Token × Cursor) := do
  let (name, cursor) := (cursor.skip 1).takeWhile isWordChar
  if name = [] ∨ ¬ endsWord cursor.rest then none
  else
    let cursor' := cursor.skipWhile isBlank
    let (token, cursor) ←
      if name = "YAML".toList then do
        let (major, cursor) ← readVersionNumber cursor'
        if cursor.rest.head? = some '.' then do
          let (minor, cursor) ← readVersionNumber (cursor.skip 1)
          return (Token.version major minor, cursor)
        else none
      else if name = "TAG".toList then do
        let (handle, cursor) ← readHandle cursor'
        if ¬ isWholeHandle handle ∧ handle ≠ ['!'] then none
        else if ¬ cursor.rest.head?.any isBlank then none
        else do
          let (replacement, cursor) ← readTagWord true (cursor.skipWhile isBlank)
          if endsWord cursor.rest then
            some (Token.tagHandle (String.ofList handle) (String.ofList replacement), cursor)
          else none
      else none
    let cursor ← cursor.skipLineEnd?
    return (token, cursor)

def readAnchorName (cursor : Cursor) : Option (String × Cursor) :=
  let (name, cursor) := (cursor.skip 1).takeWhile isWordChar
  let follows := endsWord cursor.rest ||
    cursor.rest.head?.any fun c => ['?', ':', ',', ']', '\x7d', '%', '@', '\x60'].contains c
  if name = [] ∨ ¬ follows then none else some (String.ofList name, cursor)

/-! ### Plain scalars -/

def isFlowIndicator (c : Char) : Bool := [',', '[', ']', '\x7b', '\x7d'].contains c

/-- Reads one word of a plain scalar; none at a colon that an indicator follows inside brackets. -/
def plainWord (inFlow : Bool) : List Char → Option (List Char)
  | [] => some []
  | c :: rest =>
    if endsWord [c] then some []
    else if inFlow ∧ c = ':' ∧ rest.head?.any (fun next => next == '?' || isFlowIndicator next) then
      none
    else if (c = ':' ∧ endsWord rest) ∨ (inFlow ∧ isFlowIndicator c) then some []
    else (plainWord inFlow rest).map (c :: ·)

/-- Reads the words of a plain scalar with the gaps between them. The last part of the result tells
whether the scalar was followed by a line break. -/
def plainWords (inFlow : Bool) (indent : Int) :
    Nat → List Char → Gap → Cursor → Option (List Char × Cursor × Bool)
  | 0, read, gap, cursor => some (read, cursor, gap.broken)
  | bound + 1, read, gap, cursor =>
    if cursor.atDocumentMark ∨ cursor.rest.head? = some '#' then some (read, cursor, gap.broken)
    else do
      let word ← plainWord inFlow cursor.rest
      let cursor := cursor.skip word.length
      let (read, gap) := if word = [] then (read, gap) else (read ++ gap.text ++ word, {})
      match cursor.rest with
      | [] => some (read, cursor, gap.broken)
      | c :: _ =>
        if isBlank c ∨ isBreak c then do
          let (gap, cursor) ← gap.read indent cursor.rest.length cursor
          if ¬ inFlow ∧ (cursor.column : Int) < indent then some (read, cursor, gap.broken)
          else plainWords inFlow indent bound read gap cursor
        else some (read, cursor, gap.broken)

/-! ### Quoted scalars -/

def escapeLetter? (c : Char) : Option Char :=
  match c with
  | '0' => some '\x00'
  | 'a' => some '\x07'
  | 'b' => some '\x08'
  | 't' => some '\t'
  | '\t' => some '\t'
  | 'n' => some '\n'
  | 'v' => some '\x0b'
  | 'f' => some '\x0c'
  | 'r' => some '\r'
  | 'e' => some '\x1b'
  | ' ' => some ' '
  | '"' => some '"'
  | '/' => some '/'
  | '\\' => some '\\'
  | 'N' => some '\x85'
  | '_' => some '\xa0'
  | 'L' => some '\u2028'
  | 'P' => some '\u2029'
  | _ => none

/-- How many digits follow an escape letter that introduces a code point. -/
def escapeWidth? (c : Char) : Option Nat :=
  if c = 'x' then some 2 else if c = 'u' then some 4 else if c = 'U' then some 8 else none

/-- The character of a code point; surrogates and values that are too great have none. -/
def charOfCode? (code : Nat) : Option Char :=
  if code < 0xD800 ∨ (0xE000 ≤ code ∧ code < 0x110000) then some (Char.ofNat code) else none

/-- Reads an escape between double quotes: its character, and how many characters it takes. -/
def readEscape (cs : List Char) : Option (Char × Nat) :=
  match cs with
  | '\\' :: letter :: rest =>
    match escapeWidth? letter with
    | some width => do
      let digits := rest.take width
      if digits.length ≠ width then none
      else
        let code ← Numeral.natural? 16 digits
        let c ← charOfCode? code
        return (c, 2 + width)
    | none => (escapeLetter? letter).map fun c => (c, 2)
  | _ => none

/-- Reads one word of a quoted scalar: the word, the place after it, and whether it ended with an
escaped line break. -/
def quotedWord (single : Bool) : Nat → Cursor → Option (List Char × Cursor × Bool)
  | 0, cursor => some ([], cursor, false)
  | bound + 1, cursor =>
    match cursor.rest with
    | [] => some ([], cursor, false)
    | c :: rest =>
      if isBlank c ∨ isBreak c then some ([], cursor, false)
      else if single ∧ c = '\'' ∧ rest.head? = some '\'' then do
        let (word, cursor, escaped) ← quotedWord single bound (cursor.skip 2)
        return ('\'' :: word, cursor, escaped)
      else if c = (if single then '\'' else '"') then some ([], cursor, false)
      else if ¬ single ∧ c = '\\' then
        if rest.head?.any isBreak then some ([], (cursor.skip 1).skipBreak, true)
        else do
          let (read, width) ← readEscape cursor.rest
          let (word, cursor, escaped) ← quotedWord single bound (cursor.skip width)
          return (read :: word, cursor, escaped)
      else do
        let (word, cursor, escaped) ← quotedWord single bound (cursor.skip 1)
        return (c :: word, cursor, escaped)

def quotedWords (single : Bool) : Nat → List Char → Cursor → Option (List Char × Cursor)
  | 0, _, _ => none
  | bound + 1, read, cursor =>
    if cursor.atDocumentMark ∨ cursor.rest = [] then none
    else do
      let (word, cursor, escaped) ← quotedWord single cursor.rest.length cursor
      let read := read ++ word
      if cursor.rest.head? = some (if single then '\'' else '"') then
        some (read, cursor.skip 1)
      else do
        let (gap, cursor) ← Gap.read 0 cursor.rest.length { broken := escaped } cursor
        quotedWords single bound (read ++ gap.text) cursor

/-! ### Block scalars -/

inductive Chomping where
  | strip
  | clip
  | keep
deriving DecidableEq

def chomping? (c : Char) : Option Chomping :=
  if c = '+' then some .keep else if c = '-' then some .strip else none

/-- Reads the header of a block scalar after its mark: the chomping and the explicit indentation,
in either order. -/
def readBlockHeader (cursor : Cursor) : Option (Chomping × Nat × Cursor) :=
  let increment (cursor : Cursor) : Option (Nat × Cursor) :=
    match cursor.rest with
    | c :: _ =>
      if c = '0' then none
      else if c.isDigit then some (c.toNat - '0'.toNat, cursor.skip 1)
      else some (0, cursor)
    | [] => some (0, cursor)
  let chomping (cursor : Cursor) : Chomping × Cursor :=
    match cursor.rest.head?.bind chomping? with
    | some chomping => (chomping, cursor.skip 1)
    | none => (.clip, cursor)
  match cursor.rest.head?.bind chomping? with
  | some first => do
    let (indent, cursor) ← increment (cursor.skip 1)
    return (first, indent, cursor)
  | none => do
    let (indent, cursor) ← increment cursor
    if indent = 0 then some (.clip, 0, cursor)
    else
      let (second, cursor) := chomping cursor
      some (second, indent, cursor)

/-- Reads the empty lines before a line of a block scalar, up to where that line's text begins. An
indentation of zero is not known yet and grows to the deepest line seen. -/
def blockBreaks (indent : Nat) :
    Nat → Nat → List Char → Cursor → Option (Nat × List Char × Cursor)
  | 0, deepest, read, cursor => some (deepest, read, cursor)
  | bound + 1, deepest, read, cursor =>
    let blanks := (cursor.rest.takeWhile (· == ' ')).length
    let cursor := cursor.skip (if indent = 0 then blanks else min blanks (indent - cursor.column))
    let deepest := max deepest cursor.column
    match cursor.rest with
    | [] => some (deepest, read, cursor)
    | c :: _ =>
      if (indent = 0 ∨ cursor.column < indent) ∧ c = '\t' then none
      else if isBreak c then
        let (lineBreak, cursor) := cursor.readBreak
        blockBreaks indent bound deepest (read ++ lineBreak) cursor
      else some (deepest, read, cursor)

/-- Reads the lines of a block scalar: the text, the break after the last line and the empty lines
after that. -/
def blockLines (literal : Bool) (indent : Nat) :
    Nat → List Char → List Char → List Char → Bool → Cursor →
      Option (List Char × List Char × List Char × Cursor)
  | 0, _, _, _, _, _ => none
  | bound + 1, read, lastBreak, empties, afterBlank, cursor =>
    if cursor.column = indent ∧ cursor.rest ≠ [] then do
      let startsBlank := cursor.rest.head?.any isBlank
      let joint :=
        if ¬ literal ∧ lastBreak = ['\n'] ∧ ¬ afterBlank ∧ ¬ startsBlank then
          if empties = [] then [' '] else empties
        else lastBreak ++ empties
      let (line, cursor) := cursor.takeWhile fun c => !isBreak c
      let (lineBreak, cursor) := cursor.readBreak
      let (_, empties, cursor) ← blockBreaks indent cursor.rest.length 0 [] cursor
      blockLines literal indent bound (read ++ joint ++ line) lineBreak empties startsBlank cursor
    else some (read, lastBreak, empties, cursor)

def readBlockScalar (literal : Bool) (outer : Int) (cursor : Cursor) :
    Option (Token × Cursor) := do
  let (chomping, increment, cursor) ← readBlockHeader (cursor.skip 1)
  let cursor ← cursor.skipLineEnd?
  let known := if increment = 0 then 0 else (max outer 0).toNat + increment
  let (deepest, empties, cursor) ← blockBreaks known (cursor.rest.length + 1) 0 [] cursor
  let indent := if known = 0 then max deepest (max (outer + 1) 1).toNat else known
  let (read, lastBreak, empties, cursor) ←
    blockLines literal indent (cursor.rest.length + 2) [] [] empties false cursor
  let tail := match chomping with
    | .strip => []
    | .clip => lastBreak
    | .keep => lastBreak ++ empties
  return (.scalar (String.ofList (read ++ tail)) false, cursor)

end SigilLookup.Yaml
