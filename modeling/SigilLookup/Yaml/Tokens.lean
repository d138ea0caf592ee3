import SigilLookup.Yaml.Token

/-!
# The tokens of a YAML text

`tokens?` cuts a text into tokens. Indentation becomes tokens too: a deeper block opens with a
start token and closes with `blockEnd` when a line begins further left. A key that is written
without its indicator is only known to be one when its colon is reached, so the place of each
scalar or collection that may still turn out to be a key is remembered, and the tokens for the key
are put there afterwards. Such a key must end on the line where it begins, within 1024 octets.
-/

namespace SigilLookup.Yaml

/-- A place where a key without indicator may have begun. -/
structure KeyPlace where
  possible : Bool := false
  /-- Nothing but a key may stand there. -/
  required : Bool := false
  /-- How many tokens precede it. -/
  token : Nat := 0
  index : Nat := 0
  line : Nat := 0
  column : Nat := 0
deriving Inhabited

structure Scan where
  cursor : Cursor
  tokens : Array Token := #[]
  flowLevel : Nat := 0
  /-- The column of the innermost block; -1 outside of all. -/
  indent : Int := -1
  outerIndents : List Int := []
  /-- A key without indicator may begin here. -/
  keyAllowed : Bool := true
  keyPlace : KeyPlace := {}
  outerPlaces : List KeyPlace := []

namespace Scan

def maxKeyLength : Nat := 1024

def emit (scan : Scan) (token : Token) : Scan := { scan with tokens := scan.tokens.push token }

def emitSkipping (scan : Scan) (token : Token) (count : Nat) : Scan :=
  { scan.emit token with cursor := scan.cursor.skip count }

def emitRead (scan : Scan) (read : Token × Cursor) : Scan :=
  { scan.emit read.1 with cursor := read.2 }

/-- Gives up a place where a key may have begun; none if nothing but a key may stand there. -/
def dropKeyPlace? (scan : Scan) : Option Scan :=
  if scan.keyPlace.possible ∧ scan.keyPlace.required then none
  else some { scan with keyPlace := { scan.keyPlace with possible := false } }

def isStale (cursor : Cursor) (place : KeyPlace) : Bool :=
  place.possible && (place.line < cursor.line || place.index + maxKeyLength < cursor.index)

/-- A place, given up if a key that began there would be too long by now. -/
def refresh? (cursor : Cursor) (place : KeyPlace) : Option KeyPlace :=
  if isStale cursor place then
    if place.required then none else some { place with possible := false }
  else some place

def dropStale? (scan : Scan) : Option Scan := do
  let keyPlace ← refresh? scan.cursor scan.keyPlace
  let outerPlaces ← scan.outerPlaces.mapM (refresh? scan.cursor)
  return { scan with keyPlace, outerPlaces }

def markKeyPlace? (scan : Scan) : Option Scan :=
  if scan.keyAllowed then do
    let required := scan.flowLevel == 0 && scan.indent == (scan.cursor.column : Int)
    let scan ← scan.dropKeyPlace?
    return { scan with
      keyPlace :=
        { possible := true, required, token := scan.tokens.size, index := scan.cursor.index,
          line := scan.cursor.line, column := scan.cursor.column } }
  else some scan

/-- Opens a block at a column, unless one is open there; its start token goes to the given place
among the tokens. -/
def openBlock (scan : Scan) (column : Nat) (place : Nat) (token : Token) : Scan :=
  if scan.flowLevel = 0 ∧ scan.indent < column then
    { scan with
      outerIndents := scan.indent :: scan.outerIndents
      indent := column
      tokens := scan.tokens.insertIdxIfInBounds place token }
  else scan

def closeBlocks (column : Int) : Nat → Scan → Scan
  | 0, scan => scan
  | bound + 1, scan =>
    if column < scan.indent then
      match scan.outerIndents with
      | outer :: rest =>
        closeBlocks column bound { scan.emit .blockEnd with indent := outer, outerIndents := rest }
      | [] => scan
    else scan

/-- Closes every block right of a column, outside brackets. -/
def closeBlocksTo (scan : Scan) (column : Int) : Scan :=
  if scan.flowLevel = 0 then closeBlocks column scan.outerIndents.length scan else scan

/-- Passes over blanks, comments and line breaks, and a byte order mark at the start of any line.
Outside brackets a new line may begin a key, and a tab may not stand where a key may begin. -/
def toNextToken : Nat → Scan → Scan
  | 0, scan => scan
  | bound + 1, scan =>
    let cursor := scan.cursor
    let cursor :=
      if cursor.column = 0 ∧ cursor.rest.head? = some '\ufeff' then cursor.skip 1 else cursor
    let tabs := scan.flowLevel ≠ 0 ∨ ¬ scan.keyAllowed
    let cursor := (cursor.skipWhile fun c => c == ' ' || (tabs && c == '\t')).skipComment
    if cursor.rest.head?.any isBreak then
      toNextToken bound
        { scan with
          cursor := cursor.skipBreak
          keyAllowed := scan.keyAllowed || scan.flowLevel == 0 }
    else { scan with cursor }

/-- A mark that stands outside all blocks. -/
def outsideBlocks? (scan : Scan) : Option Scan := do
  let scan ← (scan.closeBlocksTo (-1)).dropKeyPlace?
  return { scan with keyAllowed := false }

def openFlow? (scan : Scan) (token : Token) : Option Scan := do
  let scan ← scan.markKeyPlace?
  return { scan with
    outerPlaces := scan.keyPlace :: scan.outerPlaces
    keyPlace := {}
    flowLevel := scan.flowLevel + 1
    keyAllowed := true }.emitSkipping token 1

def closeFlow? (scan : Scan) (token : Token) : Option Scan := do
  let scan ← scan.dropKeyPlace?
  let scan := match scan.flowLevel, scan.outerPlaces with
    | level + 1, place :: rest =>
      { scan with flowLevel := level, keyPlace := place, outerPlaces := rest }
    | _, _ => scan
  return { scan with keyAllowed := false }.emitSkipping token 1

def flowEntry? (scan : Scan) : Option Scan := do
  let scan ← scan.dropKeyPlace?
  return { scan with keyAllowed := true }.emitSkipping .flowEntry 1

def blockEntry? (scan : Scan) : Option Scan := do
  if scan.flowLevel = 0 ∧ ¬ scan.keyAllowed then none
  else
    let scan := scan.openBlock scan.cursor.column scan.tokens.size .blockSequenceStart
    let scan ← scan.dropKeyPlace?
    return { scan with keyAllowed := true }.emitSkipping .blockEntry 1

def keyIndicator? (scan : Scan) : Option Scan := do
  if scan.flowLevel = 0 ∧ ¬ scan.keyAllowed then none
  else
    let scan := scan.openBlock scan.cursor.column scan.tokens.size .blockMappingStart
    let scan ← scan.dropKeyPlace?
    return { scan with keyAllowed := scan.flowLevel == 0 }.emitSkipping .key 1

def valueIndicator? (scan : Scan) : Option Scan :=
  let place := scan.keyPlace
  if place.possible then
    let scan := { scan with tokens := scan.tokens.insertIdxIfInBounds place.token .key }
    let scan := scan.openBlock place.column place.token .blockMappingStart
    some ({ scan with
      keyPlace := { place with possible := false }
      keyAllowed := false }.emitSkipping .value 1)
  else if scan.flowLevel = 0 then
    if scan.keyAllowed then
      some ({ scan.openBlock scan.cursor.column scan.tokens.size .blockMappingStart with
        keyAllowed := true }.emitSkipping .value 1)
    else none
  else some ({ scan with keyAllowed := false }.emitSkipping .value 1)

/-- A word that may be the start of a key. -/
def word? (scan : Scan) (read : Option (Token × Cursor)) : Option Scan := do
  let scan ← scan.markKeyPlace?
  return { scan with keyAllowed := false }.emitRead (← read)

def blockScalar? (scan : Scan) (literal : Bool) : Option Scan := do
  let scan ← scan.dropKeyPlace?
  return { scan with keyAllowed := true }.emitRead
    (← readBlockScalar literal scan.indent scan.cursor)

def quotedScalar? (scan : Scan) (single : Bool) : Option Scan :=
  scan.word? do
    let cursor := scan.cursor.skip 1
    let (read, cursor) ← quotedWords single (cursor.rest.length + 1) [] cursor
    return (.scalar (String.ofList read) false, cursor)

/-- A plain scalar. A line break after it may begin a key. -/
def plainScalar? (scan : Scan) : Option Scan := do
  let inFlow := scan.flowLevel != 0
  let (read, cursor, broken) ←
    plainWords inFlow (scan.indent + 1) (scan.cursor.rest.length + 1) [] {} scan.cursor
  let scan ← scan.word? (some (.scalar (String.ofList read) true, cursor))
  return { scan with keyAllowed := broken }

def startsPlain (inFlow : Bool) : List Char → Bool
  | [] => false
  | c :: rest =>
    !(endsWord [c] || "-?:,[]\x7b\x7d#&*!|>'\"%@\x60".toList.contains c) ||
      (c == '-' && !rest.head?.any isBlank) ||
      (!inFlow && (c == '?' || c == ':') && !endsWord rest)

def token? (scan : Scan) : Option Scan :=
  let cursor := scan.cursor
  let inFlow := scan.flowLevel != 0
  match cursor.rest with
  | [] => none
  | c :: rest =>
    if cursor.column = 0 ∧ c = '%' then do
      let scan ← scan.outsideBlocks?
      return scan.emitRead (← readDirective scan.cursor)
    else if cursor.atDocumentStart then do
      return (← scan.outsideBlocks?).emitSkipping .documentStart 3
    else if cursor.atDocumentEnd then do
      return (← scan.outsideBlocks?).emitSkipping .documentEnd 3
    else if c = '[' then scan.openFlow? .flowSequenceStart
    else if c = '\x7b' then scan.openFlow? .flowMappingStart
    else if c = ']' then scan.closeFlow? .flowSequenceEnd
    else if c = '\x7d' then scan.closeFlow? .flowMappingEnd
    else if c = ',' then scan.flowEntry?
    else if c = '-' ∧ endsWord rest then scan.blockEntry?
    else if c = '?' ∧ (inFlow ∨ endsWord rest) then scan.keyIndicator?
    else if c = ':' ∧ (inFlow ∨ endsWord rest) then scan.valueIndicator?
    else if c = '*' then
      scan.word? ((readAnchorName cursor).map fun (name, cursor) => (.alias name, cursor))
    else if c = '&' then
      scan.word? ((readAnchorName cursor).map fun (name, cursor) => (.anchor name, cursor))
    else if c = '!' then scan.word? (readTag inFlow cursor)
    else if c = '|' ∧ ¬ inFlow then scan.blockScalar? true
    else if c = '>' ∧ ¬ inFlow then scan.blockScalar? false
    else if c = '\'' then scan.quotedScalar? true
    else if c = '"' then scan.quotedScalar? false
    else if startsPlain inFlow cursor.rest then scan.plainScalar?
    else none

def finish? (scan : Scan) : Option Scan := do
  let scan ← (scan.closeBlocksTo (-1)).dropKeyPlace?
  return scan.emit .streamEnd

/-- Reads tokens up to the end of the text; each takes at least one character. -/
def toEnd? : Nat → Scan → Option Scan
  | 0, _ => none
  | bound + 1, scan => do
    let scan ← (toNextToken (scan.cursor.rest.length + 1) scan).dropStale?
    let scan := scan.closeBlocksTo scan.cursor.column
    if scan.cursor.rest = [] then scan.finish?
    else toEnd? bound (← scan.token?)

end Scan

/-- The tokens of a text; none if it contains a character that is not allowed, or a word that is ill
formed or out of place. -/
def tokens? (text : String) : Option (List Token) := do
  let cs := text.toList
  if cs.all isAllowed then
    let scan ← Scan.toEnd? (cs.length + 1) { cursor := { rest := cs } }
    return scan.tokens.toList
  else none

end SigilLookup.Yaml
