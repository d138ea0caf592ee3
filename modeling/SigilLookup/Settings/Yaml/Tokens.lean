import SigilLookup.Settings.Yaml.Word
import SigilLookup.Yaml.Tokens

/-!
# The tokens of settings in YAML

`tokens?` cuts the text of a settings file into tokens. Blocks and keys without indicators become
tokens as in documents of data. What differs is what counts as indentation:

* inside a block, the value after a colon and the entry after a dash must stand one column to the
  right of the block, which opens no block of its own;
* a tab may stand wherever a blank may, unless it would indent what follows on its line;
* keys inside brackets may run over several lines, and a pair in a bracketed sequence is put
  between tokens of a mapping.
-/

namespace SigilLookup.Yaml.Plain

/-- How far the cutting has come. -/
structure Scan where
  /-- Where the next token is looked for. -/
  place : Place
  tokens : Array Token := #[]
  flowLevel : Nat := 0
  /-- The least column of what belongs to the innermost indentation; -1 outside of all. -/
  indent : Int := -1
  /-- The indentations outside of the innermost one, each with whether it was left for a block. -/
  outerIndents : List (Int × Bool) := []
  /-- A key without indicator may begin here. -/
  keyAllowed : Bool := true
  keyPlace : KeyPlace := {}
  outerPlaces : List KeyPlace := []
  /-- Where a colon is an indicator inside brackets even if no blank follows it. -/
  adjacentIndex : Nat := 0
  /-- A mapping in brackets or a key with its indicator has begun inside brackets. -/
  inMapping : Bool := false
  /-- For each sequence in brackets that is open, whether a pair has begun in it. -/
  pairs : List Bool := []

namespace Scan

def maxFlowLevel : Nat := 255

def emit (scan : Scan) (token : Token) : Scan := { scan with tokens := scan.tokens.push token }

def insert (scan : Scan) (index : Nat) (token : Token) : Scan :=
  { scan with tokens := scan.tokens.insertIdxIfInBounds index token }

def inBlock (scan : Scan) : Bool := scan.outerIndents.head?.any Prod.snd

/-! ### Keys -/

/-- Gives up the place where a key may have begun; none if nothing but a key may stand there. -/
def dropKeyPlace? (scan : Scan) : Option Scan :=
  if scan.keyPlace.possible ∧ scan.keyPlace.required then none
  else some { scan with keyPlace := { scan.keyPlace with possible := false } }

def isStale (scan : Scan) (place : KeyPlace) : Bool :=
  place.possible && scan.flowLevel == 0 &&
    (place.line < scan.place.line || place.index + Yaml.Scan.maxKeyLength < scan.place.index)

/-- Gives up the place where a key may have begun if the key would be too long by now. -/
def dropStale? (scan : Scan) : Option Scan :=
  if scan.isStale scan.keyPlace then scan.dropKeyPlace? else some scan

def markKeyPlace (scan : Scan) : Scan :=
  if scan.keyAllowed then
    { scan with
      keyPlace :=
        { possible := true
          required :=
            scan.flowLevel == 0 && scan.indent == (scan.place.column : Int) && scan.inBlock
          token := scan.tokens.size
          index := scan.place.index
          line := scan.place.line
          column := scan.place.column } }
  else scan

/-! ### Indentation -/

/-- Leaves the innermost indentation if it is not that of a block and ends at or before a column. -/
def leaveMargin (scan : Scan) (column : Nat) : Scan :=
  match scan.outerIndents with
  | (outer, false) :: rest =>
    if scan.indent ≤ column then { scan with indent := outer, outerIndents := rest } else scan
  | _ => scan

/-- Opens a block at a column, unless one is open there; its start token goes to the given place
among the tokens. -/
def openBlock (scan : Scan) (column : Nat) (place : Nat) (token : Token) : Scan :=
  if scan.flowLevel = 0 then
    let scan := scan.leaveMargin column
    if scan.indent < column then
      { scan.insert place token with
        outerIndents := (scan.indent, true) :: scan.outerIndents
        indent := column }
    else scan
  else scan

/-- Asks for one more column of indentation inside a block. -/
def addMargin (scan : Scan) : Scan :=
  if scan.flowLevel = 0 ∧ scan.inBlock then
    { scan with
      outerIndents := (scan.indent, false) :: scan.outerIndents
      indent := scan.indent + 1 }
  else scan

/-- Leaves all indentations inside the innermost block. -/
def leaveMargins (scan : Scan) : Scan :=
  match scan.outerIndents.dropWhile (!·.2), (scan.outerIndents.takeWhile (!·.2)).getLast? with
  | rest, some (outer, _) => { scan with indent := outer, outerIndents := rest }
  | _, none => scan

/-- Leaves every indentation right of a column, and closes the blocks among them. -/
def leaveTo (column : Int) : Nat → Scan → Scan
  | 0, scan => scan
  | bound + 1, scan =>
    if column < scan.indent then
      match scan.outerIndents with
      | (outer, isBlock) :: rest =>
        leaveTo column bound
          { (if isBlock then scan.emit .blockEnd else scan) with
            indent := outer, outerIndents := rest }
      | [] => scan
    else scan

/-- Closes every block right of a column, outside brackets. -/
def closeBlocksTo (scan : Scan) (column : Int) : Scan :=
  if scan.flowLevel = 0 then leaveTo column scan.outerIndents.length scan else scan

/-! ### Between tokens -/

/-- Passes over blanks, comments and line breaks. Outside brackets a new line may begin a key. A tab
that would indent what follows on its line is refused. -/
def toNextToken? : Nat → Scan → Option Scan
  | 0, scan => some scan
  | bound + 1, scan =>
    let place := scan.place
    match place.rest with
    | [] => some scan
    | c :: _ =>
      let wouldIndent := place.leading && (place.column : Int) < scan.indent
      if c = '\t' ∧ scan.outerIndents ≠ [] ∧ wouldIndent then do
        toNextToken? bound { scan with place := ← place.passToLineEnd? }
      else if isBlank c then toNextToken? bound { scan with place := place.passBlanks 1 }
      else if isLineBreak c then
        toNextToken? bound
          { scan with
            place := place.passBreak
            keyAllowed := scan.keyAllowed || scan.flowLevel == 0 }
      else if c = '#' then toNextToken? bound { scan with place := place.passComment }
      else some scan

def skip? (scan : Scan) : Option Scan := toNextToken? (scan.place.rest.length + 1) scan

def passIndicator? (scan : Scan) (count : Nat) : Option Scan := do
  let (_, place) ← (scan.place.pass count).passLineRest?
  return { scan with place }

/-- Adds a token that was read and goes on after it. -/
def emitRead (scan : Scan) (read : Token × Place) : Scan :=
  { scan.emit read.1 with place := read.2 }

/-! ### Tokens -/

/-- A mark that stands outside all blocks. -/
def outsideBlocks? (scan : Scan) : Option Scan := do
  let scan ← (scan.closeBlocksTo (-1)).dropKeyPlace?
  return { scan with keyAllowed := false }

def documentMark? (scan : Scan) (token : Token) : Option Scan := do
  let scan ← scan.outsideBlocks?
  return scan.emitRead (token, scan.place.pass 3)

/-- The end of a document, with nothing else on its line. -/
def documentEnd? (scan : Scan) : Option Scan := do
  let scan ← scan.documentMark? .documentEnd
  return { scan with place := ← scan.place.passToLineEnd? }

/-- Ends the pair that has begun in a bracketed sequence, if there is one. -/
def endPair (scan : Scan) : Scan :=
  match scan.pairs with
  | true :: rest => { scan.emit .flowMappingEnd with inMapping := false, pairs := false :: rest }
  | _ => scan

def openFlow? (scan : Scan) (token : Token) : Option Scan := do
  if scan.flowLevel = maxFlowLevel then none
  else
    let scan := scan.markKeyPlace.addMargin
    let isSequence := token == .flowSequenceStart
    let scan ← { scan with
      outerPlaces := scan.keyPlace :: scan.outerPlaces
      keyPlace := {}
      flowLevel := scan.flowLevel + 1
      keyAllowed := true
      inMapping := scan.inMapping || !isSequence
      pairs := if isSequence then false :: scan.pairs else scan.pairs }.passIndicator? 1
    return scan.emit token

def closeFlow? (scan : Scan) (token : Token) : Option Scan := do
  let scan ← scan.dropKeyPlace?
  let scan := match scan.flowLevel, scan.outerPlaces with
    | level + 1, place :: rest =>
      { scan with flowLevel := level, keyPlace := place, outerPlaces := rest }
    | _, _ => scan
  let scan := { scan with keyAllowed := false }
  let scan :=
    if token = .flowSequenceEnd then { scan.endPair with pairs := scan.pairs.drop 1 } else scan
  let scan ← scan.passIndicator? 1
  let scan := if scan.flowLevel = 0 then scan else { scan with adjacentIndex := scan.place.index }
  return scan.emit token

def flowEntry? (scan : Scan) : Option Scan := do
  let scan ← scan.dropKeyPlace?
  let scan ← { scan with keyAllowed := true }.endPair.passIndicator? 1
  return scan.emit .flowEntry

/-- The dash of a sequence entry. No other dash may follow after tabs. -/
def blockEntry? (scan : Scan) : Option Scan := do
  if scan.flowLevel ≠ 0 ∨ ¬ scan.keyAllowed then none
  else
    let column := scan.place.column
    let (blanks, place) ← (scan.place.pass 1).passLineRest?
    if blanks.contains '\t' ∧ place.rest.head? = some '-' ∧ atWordEnd (place.rest.drop 1) then none
    else
      let scan := scan.openBlock column scan.tokens.size .blockSequenceStart
      let asksMargin (c : Char) : Bool := isLineBreak c || isFlowIndicator c
      let scan := if place.rest.head?.any asksMargin then scan.addMargin else scan
      let scan ← scan.dropKeyPlace?
      return { scan with keyAllowed := true }.emitRead (.blockEntry, place)

/-- The indicator of a key. A blank or a line break must follow, and no tab after it. -/
def keyIndicator? (scan : Scan) : Option Scan := do
  if scan.flowLevel = 0 ∧ ¬ scan.keyAllowed then none
  else
    let scan := scan.openBlock scan.place.column scan.tokens.size .blockMappingStart
    let scan := if scan.flowLevel = 0 then scan else { scan with inMapping := true }
    let scan ← scan.dropKeyPlace?
    let scan := { scan with keyAllowed := scan.flowLevel == 0, place := scan.place.pass 1 }
    if scan.place.rest.head?.any fun c => c == ' ' || isLineBreak c then
      let scan ← keyGap? (scan.place.rest.length + 1) scan
      if scan.place.rest.head? = some '\t' then none else some (scan.emit .key)
    else none
where
  keyGap? : Nat → Scan → Option Scan
    | 0, scan => some scan
    | bound + 1, scan =>
      let place := scan.place
      match place.rest with
      | [] => some scan
      | c :: _ =>
        if c = ' ' then keyGap? bound { scan with place := place.passBlanks 1 }
        else if isLineBreak c then
          keyGap? bound
            { scan with
              place := place.passBreak
              keyAllowed := scan.keyAllowed || scan.flowLevel == 0 }
        else if c = '#' then keyGap? bound { scan with place := place.passComment }
        else some scan

/-- Passes over the colon before a value. If only tabs follow it on its line, no word and no dash
may stand there. -/
def passColon? (place : Place) : Option Place :=
  let place := place.pass 1
  if place.rest.head? = some '\t' then do
    let (blanks, place) ← place.passLineRest?
    if ¬ blanks.contains ' ' ∧ place.rest.head?.any isWordChar then none else some place
  else some place

def valueIndicator? (scan : Scan) : Option Scan := do
  let key := scan.keyPlace
  let start := scan.place
  let startsPair := !scan.pairs.isEmpty && !scan.inMapping
  let scan := if startsPair then { scan with pairs := true :: scan.pairs.drop 1 } else scan
  let scan := { scan with place := ← passColon? start }
  if key.possible then
    if startsPair ∧ key.line < start.line then none
    else
      let scan := scan.insert key.token .key
      let scan := if startsPair then scan.insert key.token .flowMappingStart else scan
      let scan := (scan.openBlock key.column key.token .blockMappingStart).addMargin
      return { scan with
        keyPlace := { key with possible := false }
        keyAllowed := false }.emit .value
  else
    let scan := if startsPair then scan.emit .flowMappingStart else scan
    if scan.flowLevel = 0 ∧ ¬ scan.keyAllowed then none
    else
      let scan := (scan.openBlock start.column scan.tokens.size .blockMappingStart).addMargin
      return { scan with keyAllowed := scan.flowLevel == 0 }.emit .value

/-- A word that may be the start of a key. -/
def word? (scan : Scan) (read : Option (Token × Place)) : Option Scan := do
  return { scan.markKeyPlace with keyAllowed := false }.emitRead (← read)

def quotedScalar? (scan : Scan) (single : Bool) : Option Scan := do
  let scan ← scan.word? (readQuoted single (scan.flowLevel != 0) scan.indent scan.place)
  let scan ← scan.skip?
  return { scan with adjacentIndex := scan.place.index }

def blockScalar? (scan : Scan) (literal : Bool) : Option Scan := do
  let scan := scan.markKeyPlace.leaveMargins
  return { scan with keyAllowed := true }.emitRead (← readBlock literal scan.indent scan.place)

/-- A plain scalar. A line break after it may begin a key. -/
def plainScalar? (scan : Scan) : Option Scan := do
  let scan := { scan.markKeyPlace.leaveMargins with keyAllowed := false }
  let inFlow := scan.flowLevel != 0
  let place := scan.place
  if inFlow ∧ (place.column : Int) < scan.indent + 1 then none
  else
    let (read, place, broken) ←
      plainWords inFlow (scan.indent + 1) (place.rest.length + 1) [] {} place
    return { scan with keyAllowed := broken }.emitRead
      (.scalar (String.ofList read) true, place)

def isValueIndicator (scan : Scan) (rest : List Char) : Bool :=
  atWordEnd rest ||
    (scan.flowLevel != 0 &&
      (rest.head?.any isFlowIndicator || scan.place.index == scan.adjacentIndex))

def token? (scan : Scan) : Option Scan :=
  let place := scan.place
  let inFlow := scan.flowLevel != 0
  match place.rest with
  | [] => none
  | c :: rest =>
    if place.column = 0 ∧ c = '%' then do
      let scan ← scan.outsideBlocks?
      return scan.emitRead (← readDirective scan.place)
    else if place.atDocumentStart then scan.documentMark? .documentStart
    else if place.atDocumentEnd then scan.documentEnd?
    else if (place.column : Int) < scan.indent then none
    else if c = '[' then scan.openFlow? .flowSequenceStart
    else if c = '\x7b' then scan.openFlow? .flowMappingStart
    else if c = ']' then scan.closeFlow? .flowSequenceEnd
    else if c = '\x7d' then scan.closeFlow? .flowMappingEnd
    else if c = ',' then scan.flowEntry?
    else if c = '-' ∧ atWordEnd rest then scan.blockEntry?
    else if c = '?' ∧ atWordEnd rest then scan.keyIndicator?
    else if c = ':' ∧ scan.isValueIndicator rest then scan.valueIndicator?
    else if c = '*' then
      scan.word? ((readAnchorName place).map fun (name, place) => (.alias name, place))
    else if c = '&' then
      scan.word? ((readAnchorName place).map fun (name, place) => (.anchor name, place))
    else if c = '!' then scan.word? (readTag inFlow place)
    else if c = '|' ∧ ¬ inFlow then scan.blockScalar? true
    else if c = '>' ∧ ¬ inFlow then scan.blockScalar? false
    else if c = '\'' then scan.quotedScalar? true
    else if c = '"' then scan.quotedScalar? false
    else if c = '%' ∨ c = '@' ∨ c = '\x60' then none
    else scan.plainScalar?

def finish? (scan : Scan) : Option Scan :=
  if (scan.keyPlace :: scan.outerPlaces).any fun place => place.possible && place.required then none
  else some ((scan.closeBlocksTo (-1)).emit .streamEnd)

/-- Reads tokens up to the end of the text; each takes at least one character. -/
def toEnd? : Nat → Scan → Option Scan
  | 0, _ => none
  | bound + 1, scan => do
    let scan ← (← scan.skip?).dropStale?
    let scan := scan.closeBlocksTo scan.place.column
    if scan.place.rest = [] then scan.finish?
    else toEnd? bound (← scan.token?)

end Scan

/-- The tokens of a text up to its first NUL; none if a word is ill formed or out of place. -/
def tokens? (text : String) : Option (List Token) := do
  let cs := text.toList.takeWhile (· != '\x00')
  let scan ← Scan.toEnd? (cs.length + 1) { place := { rest := cs } }
  return scan.tokens.toList

end SigilLookup.Yaml.Plain
