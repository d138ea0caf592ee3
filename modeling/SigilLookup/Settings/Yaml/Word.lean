import SigilLookup.Settings.Yaml.Place
import SigilLookup.Yaml.Token

/-!
# Words of settings in YAML

Readers of directives, anchors, tags and scalars in settings files. Each takes the place where the
word begins and gives the word with the place after it, or nothing if the word is ill formed.

Anchors may contain any characters but blanks and brackets. Of directives only those that declare
tags have an effect, and others are read as if they declared none.
-/

namespace SigilLookup.Yaml.Plain

/-! ### Tags -/

def tagMarks : List Char := "#;/?:@&=+$,_.!~*'()[]%".toList

/-- The characters of a tag between angle brackets and of what a tag handle stands for. -/
def isTagChar (c : Char) : Bool := isWordChar c || tagMarks.contains c

def isSuffixChar (c : Char) : Bool := isTagChar c && !isFlowIndicator c && c != '!'

def escapedOctet? (cs : List Char) : Option Nat :=
  match cs with
  | '%' :: a :: b :: _ => Numeral.natural? 16 [a, b]
  | _ => none

/-- Reads a character written as percent escapes. Their octets, put one after another, are its
code; the first one tells how many there are. -/
def readEscapedChar (place : Place) : Option (Char × Place) := do
  let first ← escapedOctet? place.rest
  let width ←
    if first < 0x80 then some 1
    else if 0xC0 ≤ first ∧ first < 0xE0 then some 2
    else if 0xE0 ≤ first ∧ first < 0xF0 then some 3
    else if 0xF0 ≤ first ∧ first < 0xF8 then some 4
    else none
  let tail ← (List.range (width - 1)).mapM fun k => do
    let octet ← escapedOctet? (place.rest.drop (3 * (k + 1)))
    if 0x80 ≤ octet ∧ octet < 0xC0 then some octet else none
  let code ← charOfCode? (tail.foldl (fun code octet => code * 0x100 + octet) first)
  return (code, place.pass (3 * width))

/-- Reads characters of a tag with a property, percent escapes included. -/
def readTagChars (p : Char → Bool) : Nat → Place → Option (List Char × Place)
  | 0, place => some ([], place)
  | bound + 1, place =>
    match place.rest with
    | [] => some ([], place)
    | c :: _ =>
      if p c then do
        let (read, place) ← if c = '%' then readEscapedChar place else some (c, place.pass 1)
        let (more, place) ← readTagChars p bound place
        return (read :: more, place)
      else some ([], place)

/-- Reads a tag handle: an exclamation mark, letters, and a second mark if there is one. -/
def readHandle (place : Place) : Option (List Char × Place) :=
  if place.rest.head? = some '!' then
    let word := (place.rest.drop 1).takeWhile isWordChar
    let place := place.pass (1 + word.length)
    if place.rest.head? = some '!' then some ('!' :: (word ++ ['!']), place.pass 1)
    else some ('!' :: word, place)
  else none

/-- Reads a tag between angle brackets. -/
def readVerbatim (place : Place) : Option (Token × Place) := do
  let (suffix, place) ← readTagChars isTagChar place.rest.length (place.pass 2)
  if place.rest.head? = some '>' then
    some (.tag "" (String.ofList suffix), place.pass 1)
  else none

/-- Reads a tag with a handle. -/
def readShorthand (place : Place) : Option (Token × Place) := do
  let (handle, place) ← readHandle place
  let (more, place) ← readTagChars isSuffixChar place.rest.length place
  if isWholeHandle handle then
    if more = [] then none
    else some (.tag (String.ofList handle) (String.ofList more), place)
  else
    let suffix := handle.drop 1 ++ more
    if suffix = [] then some (.tag "" "!", place)
    else some (.tag "!" (String.ofList suffix), place)

def readTag (inFlow : Bool) (place : Place) : Option (Token × Place) := do
  let (token, place) ←
    if (place.rest.drop 1).head? = some '<' then readVerbatim place else readShorthand place
  if atWordEnd place.rest ∨ (inFlow ∧ place.rest.head?.any isFlowIndicator) then
    some (token, place)
  else none

/-! ### Directives and anchors -/

/-- Reads a number of a version, of at most nine digits. -/
def readVersionNumber (place : Place) : Option (Nat × Place) :=
  let digits := place.rest.takeWhile Char.isDigit
  if digits = [] ∨ 9 < digits.length then none
  else some (Numeral.ofDigits digits, place.pass digits.length)

def passAllBlanks (place : Place) : Place :=
  place.passBlanks (place.rest.takeWhile isBlank).length

def readVersion (place : Place) : Option (Token × Place) := do
  let (major, place) ← readVersionNumber (passAllBlanks place)
  if place.rest.head? = some '.' then do
    let (minor, place) ← readVersionNumber (place.pass 1)
    return (.version major minor, place)
  else none

def readDeclaration (place : Place) : Option (Token × Place) := do
  let (handle, place) ← readHandle (passAllBlanks place)
  if ¬ isWholeHandle handle ∧ handle ≠ ['!'] then none
  else
    let place := passAllBlanks place
    let starts (c : Char) : Bool := c == '!' || isSuffixChar c
    if place.rest.head?.any starts then do
      let (replacement, place) ← readTagChars isTagChar place.rest.length place
      if atWordEnd place.rest then
        some (.tagHandle (String.ofList handle) (String.ofList replacement), place)
      else none
    else none

def readDirective (place : Place) : Option (Token × Place) := do
  let name := (place.rest.drop 1).takeWhile isWordChar
  let place := place.pass (1 + name.length)
  if name = [] ∨ ¬ atWordEnd place.rest then none
  else
    let (token, place) ←
      if name = "YAML".toList then readVersion place
      else if name = "TAG".toList then readDeclaration place
      else some (.tagHandle "" "", place.passWhile fun c => !isLineBreak c)
    let place ← place.passToLineEnd?
    return (token, place.passBreak)

def isAnchorChar (c : Char) : Bool := !atWordEnd [c] && !isFlowIndicator c && c != '\ufeff'

def readAnchorName (place : Place) : Option (String × Place) :=
  let name := (place.rest.drop 1).takeWhile isAnchorChar
  if name = [] then none else some (String.ofList name, place.pass (1 + name.length))

/-! ### Plain scalars -/

/-- Tells whether a plain scalar may contain the first of some characters. -/
def isPlain (inFlow : Bool) : List Char → Bool
  | [] => false
  | c :: rest =>
    if c = ':' ∧ (atWordEnd rest ∨ (inFlow ∧ rest.head?.any isFlowIndicator)) then false
    else !(inFlow && isFlowIndicator c)

def plainWord (inFlow : Bool) : List Char → List Char
  | [] => []
  | c :: rest =>
    if atWordEnd [c] ∨ ¬ isPlain inFlow (c :: rest) then [] else c :: plainWord inFlow rest

/-- Reads the words of a plain scalar with the gaps between them. The last part of the result tells
whether the scalar was followed by a line break. -/
def plainWords (inFlow : Bool) (indent : Int) :
    Nat → List Char → Gap → Place → Option (List Char × Place × Bool)
  | 0, read, gap, place => some (read, place, gap.broken)
  | bound + 1, read, gap, place =>
    if place.atDocumentMark ∨ place.rest.head? = some '#' then some (read, place, gap.broken)
    else if inFlow ∧ place.rest.head? = some '-' ∧
        (place.rest.drop 1).head?.any isFlowIndicator then
      none
    else do
      let word := plainWord inFlow place.rest
      let place := place.pass word.length
      let (read, gap) := if word = [] then (read, gap) else (read ++ gap.text ++ word, {})
      match place.rest with
      | [] => some (read, place, gap.broken)
      | c :: _ =>
        if isBlank c ∨ isLineBreak c then do
          let (gap, place) ← readGap Place.passToLineEnd? indent place.rest.length gap place
          if ¬ inFlow ∧ (place.column : Int) < indent then some (read, place, gap.broken)
          else plainWords inFlow indent bound read gap place
        else some (read, place, gap.broken)

/-! ### Quoted scalars -/

/-- Reads one word of a quoted scalar: the word, the place after it, and whether it ended with an
escaped line break. -/
def quotedWord (single : Bool) : Nat → Place → Option (List Char × Place × Bool)
  | 0, place => some ([], place, false)
  | bound + 1, place =>
    match place.rest with
    | [] => some ([], place, false)
    | c :: rest =>
      if atWordEnd [c] then some ([], place, false)
      else if c = '\'' ∧ single then
        if rest.head? = some '\'' then do
          let (word, place, escaped) ← quotedWord single bound (place.pass 2)
          return ('\'' :: word, place, escaped)
        else some ([], place, false)
      else if c = '"' ∧ ¬ single then some ([], place, false)
      else if c = '\\' ∧ ¬ single then
        if rest.head?.any isLineBreak then some ([], (place.pass 1).passBreak, true)
        else do
          let (read, width) ← readEscape place.rest
          let (word, place, escaped) ← quotedWord single bound (place.pass width)
          return (read :: word, place, escaped)
      else do
        let (word, place, escaped) ← quotedWord single bound (place.pass 1)
        return (c :: word, place, escaped)

/-- Reads the words of a quoted scalar up to its closing quote. No word may stand left of the
block that the scalar is in. -/
def quotedWords (single : Bool) (indent : Int) :
    Nat → List Char → Place → Option (List Char × Place)
  | 0, _, _ => none
  | bound + 1, read, place =>
    if place.atDocumentMark ∨ place.rest = [] ∨ (place.column : Int) < indent then none
    else do
      let (word, place, escaped) ← quotedWord single place.rest.length place
      let read := read ++ word
      if place.rest.head? = some (if single then '\'' else '"') then some (read, place.pass 1)
      else do
        let (gap, place) ←
          readGap (fun _ => none) indent place.rest.length { broken := escaped } place
        quotedWords single indent bound (read ++ gap.text) place

/-- Reads a quoted scalar. Only the end of the line or the indicator of a key's value may follow,
and inside brackets also what ends an entry. -/
def readQuoted (single inFlow : Bool) (indent : Int) (place : Place) : Option (Token × Place) := do
  let (read, after) ← quotedWords single indent (place.rest.length + 1) [] (place.pass 1)
  let (_, after) ← after.passLineRest?
  let follows (c : Char) : Bool :=
    (inFlow && (c == ',' || c == ']' || c == '\x7d')) ||
      (c == ':' && (inFlow || place.line == after.line))
  if atLineEnd after.rest ∨ after.rest.head?.any follows then
    some (.scalar (String.ofList read) false, after)
  else none

/-! ### Block scalars -/

/-- Reads the header of a block scalar after its mark: the chomping and the explicit indentation,
in either order. -/
def readHeader (place : Place) : Option (Chomping × Nat × Place) := do
  let digit? (place : Place) : Option (Nat × Place) :=
    match place.rest.head? with
    | some c =>
      if c = '0' then none
      else if c.isDigit then some (c.toNat - '0'.toNat, place.pass 1)
      else some (0, place)
    | none => some (0, place)
  match place.rest.head?.bind chomping? with
  | some chomping => do
    let (increment, place) ← digit? (place.pass 1)
    return (chomping, increment, place)
  | none => do
    let (increment, after) ← digit? place
    match if increment = 0 then none else after.rest.head?.bind chomping? with
    | some chomping => return (chomping, increment, after.pass 1)
    | none => return (.clip, increment, after)

/-- Passes over empty lines, and over the spaces before the next line up to a column. -/
def passEmptyLines (indent : Nat) : Nat → List Char → Place → List Char × Place
  | 0, breaks, place => (breaks, place)
  | bound + 1, breaks, place =>
    let spaces := (place.rest.takeWhile (· == ' ')).length
    let place := place.passBlanks (min spaces (indent - place.column))
    if place.rest.head?.any isLineBreak then
      passEmptyLines indent bound (breaks ++ ['\n']) place.passBreak
    else (breaks, place)

/-- Passes over empty lines and the spaces before the next line, and gives the greatest column
reached. -/
def passFirstLines : Nat → Nat → List Char → Place → Nat × List Char × Place
  | 0, deepest, breaks, place => (deepest, breaks, place)
  | bound + 1, deepest, breaks, place =>
    let place := place.passBlanks (place.rest.takeWhile (· == ' ')).length
    let deepest := max deepest place.column
    if place.rest.head?.any isLineBreak then
      passFirstLines bound deepest (breaks ++ ['\n']) place.passBreak
    else (deepest, breaks, place)

structure BlockText where
  text : List Char := []
  /-- The break after the last line. -/
  lastBreak : List Char := []
  /-- The empty lines after that. -/
  empties : List Char := []
  /-- The last line begins with a blank. -/
  startsBlank : Bool := false

/-- The text that precedes the next line of a block scalar. -/
def BlockText.joined (read : BlockText) (literal startsBlank : Bool) : List Char :=
  let isFolded := !literal && read.lastBreak != [] && !read.startsBlank && !startsBlank
  read.text ++
    if isFolded then if read.empties = [] then [' '] else read.empties
    else read.lastBreak ++ read.empties

def blockLines (literal : Bool) (indent : Nat) : Nat → BlockText → Place → BlockText × Place
  | 0, read, place => (read, place)
  | bound + 1, read, place =>
    if place.column ≠ indent ∨ place.rest = [] ∨ (indent = 0 ∧ place.atDocumentEnd) then
      (read, place)
    else
      let startsBlank := place.rest.head?.any isBlank
      let line := place.rest.takeWhile fun c => !isLineBreak c
      let text := read.joined literal startsBlank ++ line
      let place := place.pass line.length
      if place.rest = [] then ({ text, startsBlank }, place)
      else
        let (empties, place) := passEmptyLines indent (place.rest.length + 1) [] place.passBreak
        blockLines literal indent bound { text, lastBreak := ['\n'], empties, startsBlank } place

/-- Reads a block scalar inside a block of the given indentation. A last line that no break ends
counts as if one did. -/
def readBlock (literal : Bool) (outer : Int) (place : Place) : Option (Token × Place) := do
  let (chomping, increment, header) ← readHeader (place.pass 1)
  let header ← header.passToLineEnd?
  let start := header.passBreak
  if start.rest.head? = some '\t' then none
  else
    let bound := start.rest.length + 1
    let known := if increment = 0 then 0 else (max outer 0).toNat + increment
    let (indent, breaks, first) :=
      if known = 0 then
        let (deepest, breaks, first) := passFirstLines bound 0 [] start
        (max deepest (max (outer + 1).toNat (if 0 < outer then 1 else 0)), breaks, first)
      else
        let (breaks, first) := passEmptyLines known bound [] start
        (known, breaks, first)
    let token (text : List Char) : Token := .scalar (String.ofList text) false
    if first.rest = [] then
      let headerBreak := if header.rest = [] then [] else ['\n']
      let text := match chomping with
        | .strip => []
        | .clip => if first.line = place.line then [] else headerBreak
        | .keep =>
          if first.line = place.line then [] else if breaks = [] then headerBreak else breaks
      some (token text, first)
    else if first.column < indent ∧ outer < first.column then none
    else
      let (read, last) := blockLines literal indent bound { empties := breaks } first
      let ending :=
        if last.rest = [] ∧ max indent 1 ≤ last.column then read.lastBreak ++ ['\n']
        else read.lastBreak
      let tail := match chomping with
        | .strip => []
        | .clip => ending
        | .keep => ending ++ read.empties
      some (token (read.text ++ tail), last)

end SigilLookup.Yaml.Plain
