import SigilLookup.OrderedMap
import SigilLookup.Yaml.Tokens

/-!
# YAML documents

`Document.read?` reads the one document of a text as a sequence of items: scalars, aliases, and the
starts and ends of collections. An alias is kept as the number that its anchor had at that point,
and each number leads to the place of the item that last took it.

There are two dialects. In documents of data a new anchor takes as its number how many different
names have been anchored before it, so a name that is anchored again gets a number of its own, which
a later name may take over. In settings every anchor takes a new number, and a value may stand in
a mapping without a key.

Collections of data may nest at most `maxDepth` deep; a reader of the items refuses deeper ones in
any case.
-/

namespace SigilLookup.Yaml

/-- A tag: what its handle stands for, and the suffix after it. -/
structure Tag where
  handle : String
  suffix : String
deriving DecidableEq

/-- A tag written out. A NUL ends either part of it. -/
def Tag.text (tag : Tag) : String :=
  let upToNul (part : String) := part.toList.takeWhile (· != '\x00')
  String.ofList (upToNul tag.handle ++ upToNul tag.suffix)

inductive Item where
  | alias (number : Nat)
  | scalar (tag : Option Tag) (text : String) (plain : Bool)
  | sequenceStart (tag : Option Tag)
  | sequenceEnd
  | mappingStart (tag : Option Tag)
  | mappingEnd
deriving Inhabited

/-- A document: its items in order, and the place of the item that each alias number leads to.
A text without any document has no item. -/
structure Document where
  items : Array Item := #[]
  targets : List (Nat × Nat) := []

def maxDepth : Nat := 128

/-- The dialects of documents. -/
inductive Dialect where
  | data
  | settings
deriving DecidableEq

/-- A document being read, with the numbers of the names that have been anchored. -/
structure Draft where
  dialect : Dialect
  document : Document := {}
  numbers : List (String × Nat) := []

namespace Draft

def nextNumber (draft : Draft) : Nat :=
  match draft.dialect with
  | .data => draft.numbers.length
  | .settings => draft.document.targets.length

def add (draft : Draft) (item : Item) : Draft :=
  { draft with document := { draft.document with items := draft.document.items.push item } }

def addAnchored (draft : Draft) (anchor : Option String) (item : Item) : Draft :=
  match anchor with
  | none => draft.add item
  | some name =>
    let number := draft.nextNumber
    let place := draft.document.items.size
    let draft := draft.add item
    { draft with
      document := { draft.document with targets := (number, place) :: draft.document.targets }
      numbers := Entries.insert name number draft.numbers }

def addEmpty (draft : Draft) : Draft := draft.add (.scalar none "" true)

/-- Adds an alias; none if nothing has been anchored under the name. -/
def addAlias? (draft : Draft) (name : String) : Option Draft :=
  (Entries.find? name draft.numbers).map fun number => draft.add (.alias number)

end Draft

/-- What the readers of collections carry along: the document so far and the tokens that are
left. -/
abbrev Progress := Draft × List Token

/-- The tag handles that a document can use without declaring them. -/
def defaultHandles : List (String × String) := [("!", "!"), ("!!", "tag:yaml.org,2002:")]

/-- The whole tag for a handle and a suffix; none if the handle is not declared. -/
def resolveTag? (handles : List (String × String)) (handle suffix : String) : Option Tag :=
  if handle = "" then some ⟨"", suffix⟩ else (handles.lookup handle).map (⟨·, suffix⟩)

/-- Reads the anchor and the tag in front of a node, in either order. -/
def readProperties (handles : List (String × String)) (tokens : List Token) :
    Option (Option String × Option Tag × List Token) :=
  match tokens with
  | .anchor name :: .tag handle suffix :: rest => do
    return (some name, some (← resolveTag? handles handle suffix), rest)
  | .tag handle suffix :: .anchor name :: rest => do
    return (some name, some (← resolveTag? handles handle suffix), rest)
  | .anchor name :: rest => some (some name, none, rest)
  | .tag handle suffix :: rest => do
    return (none, some (← resolveTag? handles handle suffix), rest)
  | rest => some (none, none, rest)

/-- How to read a node; the flags allow block collections and block sequences that are not
indented. -/
abbrev NodeReader := Bool → Bool → Progress → Option Progress

/-- Reads a node, or adds an empty scalar if one of the given tokens stands in its place. -/
def nodeUnless (node : NodeReader) (block indentless : Bool) (ends : Token → Bool)
    (progress : Progress) : Option Progress :=
  match progress with
  | (draft, token :: rest) =>
    if ends token then some (draft.addEmpty, token :: rest) else node block indentless progress
  | (_, []) => none

def endsBlockEntry : Token → Bool
  | .key => true
  | .value => true
  | .blockEnd => true
  | _ => false

def blockSequence (node : NodeReader) : Nat → Progress → Option Progress
  | 0, _ => none
  | bound + 1, (draft, tokens) =>
    match tokens with
    | .blockEntry :: rest => do
      let progress ← nodeUnless node true false
        (fun token => token == .blockEntry || token == .blockEnd) (draft, rest)
      blockSequence node bound progress
    | .blockEnd :: rest => some (draft.add .sequenceEnd, rest)
    | _ => none

/-- Reads the entries of a block sequence that stands at the indentation of its mapping. -/
def indentlessSequence (node : NodeReader) : Nat → Progress → Option Progress
  | 0, _ => none
  | bound + 1, (draft, tokens) =>
    match tokens with
    | .blockEntry :: rest => do
      let progress ← nodeUnless node true false
        (fun token => token == .blockEntry || endsBlockEntry token) (draft, rest)
      indentlessSequence node bound progress
    | rest => some (draft.add .sequenceEnd, rest)

def blockValue (node : NodeReader) : Progress → Option Progress
  | (draft, .value :: rest) => nodeUnless node true true endsBlockEntry (draft, rest)
  | (draft, rest) => some (draft.addEmpty, rest)

def blockMapping (node : NodeReader) : Nat → Progress → Option Progress
  | 0, _ => none
  | bound + 1, (draft, tokens) =>
    match tokens with
    | .key :: rest => do
      let progress ← nodeUnless node true true endsBlockEntry (draft, rest)
      blockMapping node bound (← blockValue node progress)
    | .value :: rest =>
      if draft.dialect = .settings then do
        blockMapping node bound (← blockValue node (draft.addEmpty, .value :: rest))
      else none
    | .blockEnd :: rest => some (draft.add .mappingEnd, rest)
    | _ => none

def flowValue (node : NodeReader) (closing : Token) : Progress → Option Progress
  | (draft, .value :: rest) =>
    nodeUnless node false false (fun token => token == .flowEntry || token == closing) (draft, rest)
  | (draft, rest) => some (draft.addEmpty, rest)

/-- Reads a single pair in a bracketed sequence after its key indicator. If the key is missing, the
token in its place is passed over. -/
def singlePair (node : NodeReader) : Progress → Option Progress
  | (draft, token :: rest) => do
    let draft := draft.add (.mappingStart none)
    let progress ←
      if token = .value ∨ token = .flowEntry ∨ token = .flowSequenceEnd then
        some (draft.addEmpty, rest)
      else node false false (draft, token :: rest)
    let (draft, rest) ← flowValue node .flowSequenceEnd progress
    return (draft.add .mappingEnd, rest)
  | (_, []) => none

/-- Passes over the comma before an entry that is not the first. -/
def separator? (isFirst : Bool) (tokens : List Token) : Option (List Token) :=
  if isFirst then some tokens
  else
    match tokens with
    | .flowEntry :: rest => some rest
    | _ => none

def flowSequence (node : NodeReader) : Nat → Bool → Progress → Option Progress
  | 0, _, _ => none
  | bound + 1, isFirst, (draft, tokens) =>
    match tokens with
    | .flowSequenceEnd :: rest => some (draft.add .sequenceEnd, rest)
    | tokens => do
      match ← separator? isFirst tokens with
      | .flowSequenceEnd :: rest => some (draft.add .sequenceEnd, rest)
      | .key :: rest => flowSequence node bound false (← singlePair node (draft, rest))
      | rest => flowSequence node bound false (← node false false (draft, rest))

def flowMapping (node : NodeReader) : Nat → Bool → Progress → Option Progress
  | 0, _, _ => none
  | bound + 1, isFirst, (draft, tokens) =>
    match tokens with
    | .flowMappingEnd :: rest => some (draft.add .mappingEnd, rest)
    | tokens => do
      match ← separator? isFirst tokens with
      | .flowMappingEnd :: rest => some (draft.add .mappingEnd, rest)
      | .key :: rest => do
        let progress ← nodeUnless node false false
          (fun token => token == .value || token == .flowEntry || token == .flowMappingEnd)
          (draft, rest)
        flowMapping node bound false (← flowValue node .flowMappingEnd progress)
      | rest =>
        if draft.dialect = .settings ∧ rest.head? = some .value then do
          flowMapping node bound false (← flowValue node .flowMappingEnd (draft.addEmpty, rest))
        else do
          let (draft, rest) ← node false false (draft, rest)
          flowMapping node bound false (draft.addEmpty, rest)

/-- Reads a node whose collections nest at most `depth` deep. -/
def readNode (handles : List (String × String)) (bound : Nat) : Nat → NodeReader
  | depth, block, indentless, (draft, tokens) =>
    match tokens with
    | .alias name :: rest => do return (← draft.addAlias? name, rest)
    | tokens => do
      let (anchor, tag, rest) ← readProperties handles tokens
      match rest, depth with
      | .scalar text plain :: rest, _ =>
        some (draft.addAnchored anchor (.scalar tag text plain), rest)
      | .blockEntry :: rest, depth + 1 =>
        if indentless then
          indentlessSequence (readNode handles bound depth) bound
            (draft.addAnchored anchor (.sequenceStart tag), .blockEntry :: rest)
        else if anchor.isSome ∨ tag.isSome then
          some (draft.addAnchored anchor (.scalar tag "" true), .blockEntry :: rest)
        else none
      | .flowSequenceStart :: rest, depth + 1 =>
        flowSequence (readNode handles bound depth) bound true
          (draft.addAnchored anchor (.sequenceStart tag), rest)
      | .flowMappingStart :: rest, depth + 1 =>
        flowMapping (readNode handles bound depth) bound true
          (draft.addAnchored anchor (.mappingStart tag), rest)
      | .flowSequenceStart :: _, 0 => none
      | .flowMappingStart :: _, 0 => none
      | token :: rest, depth =>
        if block ∧ token = .blockSequenceStart then
          match depth with
          | 0 => none
          | depth + 1 =>
            blockSequence (readNode handles bound depth) bound
              (draft.addAnchored anchor (.sequenceStart tag), rest)
        else if block ∧ token = .blockMappingStart then
          match depth with
          | 0 => none
          | depth + 1 =>
            blockMapping (readNode handles bound depth) bound
              (draft.addAnchored anchor (.mappingStart tag), rest)
        else if anchor.isSome ∨ tag.isSome then
          some (draft.addAnchored anchor (.scalar tag "" true), token :: rest)
        else none
      | [], _ => none

/-- Reads the directives of a document: the tag handles they declare, and the tokens that are left.
A handle or the version may be declared once, and the version must be 1.1 or 1.2. -/
def readDirectives (hasVersion : Bool) (handles : List (String × String)) :
    List Token → Option (List (String × String) × List Token)
  | .version major minor :: rest =>
    if hasVersion ∨ major ≠ 1 ∨ (minor ≠ 1 ∧ minor ≠ 2) then none
    else readDirectives true handles rest
  | .tagHandle handle replacement :: rest =>
    if (handles.lookup handle).isSome then none
    else readDirectives hasVersion (handles ++ [(handle, replacement)]) rest
  | rest => some (handles, rest)

def isBetweenDocuments : Token → Bool
  | .version .. => true
  | .tagHandle .. => true
  | .documentStart => true
  | .documentEnd => true
  | .streamEnd => true
  | _ => false

def onlyEnds : List Token → Bool
  | [.streamEnd] => true
  | .documentEnd :: rest => onlyEnds rest
  | _ => false

/-- Reads the only document of a text. -/
def Document.read? (text : String) : Option Document := do
  let tokens ← tokens? text
  let bound := tokens.length + 1
  match tokens with
  | [.streamEnd] => some {}
  | tokens => do
    let explicit := match tokens.head? with
      | some .documentEnd => false
      | some token => isBetweenDocuments token
      | none => false
    let (draft, rest) ←
      if explicit then do
        let (declared, rest) ← readDirectives false [] tokens
        match rest with
        | .documentStart :: rest =>
          nodeUnless (readNode (declared ++ defaultHandles) bound maxDepth) true false
            isBetweenDocuments ({ dialect := .data }, rest)
        | _ => none
      else readNode defaultHandles bound maxDepth true false ({ dialect := .data }, tokens)
    if onlyEnds rest then some draft.document else none

/-! ### Reading the items -/

/-- What the items of a document become. -/
structure Schema (α : Type) where
  void : α
  scalar : Option Tag → String → Bool → Option α
  key : Option Tag → String → Bool → Option String
  sequence : Option Tag → List α → Option α
  mapping : Option Tag → List (String × α) → Option α

namespace Document

/-- The place that the item at a place stands for, following an alias, and the number of aliases
followed so far. There may be a hundred for every item. -/
def follow (document : Document) (place followed : Nat) : Option (Nat × Nat) :=
  match document.items[place]? with
  | some (.alias number) =>
    if followed + 1 > document.items.size * 100 then none
    else (document.targets.lookup number).map fun target => (target, followed + 1)
  | some _ => some (place, followed)
  | none => none

/-- Reads the key at a place: its text and the number of aliases followed. -/
def keyAt (document : Document) (schema : Schema α) (place followed : Nat) :
    Option (String × Nat) := do
  let (target, followed) ← document.follow place followed
  match document.items[target]? with
  | some (.scalar tag text plain) => do return (← schema.key tag text plain, followed)
  | _ => none

/-- How to read the value at a place: the value, the place after it and the number of aliases
followed. -/
abbrev ValueReader (α : Type) := Nat → Nat → Option (α × Nat × Nat)

/-- Reads the entries of a sequence; `read` holds the values so far, last one first. -/
def sequenceAt (document : Document) (value : ValueReader α) :
    Nat → List α → ValueReader (List α)
  | 0, _, _, _ => none
  | bound + 1, read, place, followed =>
    match document.items[place]? with
    | some .sequenceEnd => some (read.reverse, place + 1, followed)
    | _ => do
      let (entry, place, followed) ← value place followed
      sequenceAt document value bound (entry :: read) place followed

/-- Reads the entries of a mapping; `read` holds the entries so far, last one first. -/
def mappingAt (document : Document) (schema : Schema α) (value : ValueReader α) :
    Nat → List (String × α) → ValueReader (List (String × α))
  | 0, _, _, _ => none
  | bound + 1, read, place, followed =>
    match document.items[place]? with
    | some .mappingEnd => some (read.reverse, place + 1, followed)
    | _ => do
      let (key, followed) ← document.keyAt schema place followed
      let (entry, place, followed) ← value (place + 1) followed
      mappingAt document schema value bound ((key, entry) :: read) place followed

/-- Reads the value at a place, with a reader for what its collections hold; without one there may
be no collection. -/
def nodeAt (document : Document) (schema : Schema α) (inner : Option (ValueReader α)) :
    ValueReader α :=
  fun place followed => do
    let (target, followed) ← document.follow place followed
    let bound := document.items.size + 1
    let after (next : Nat) : Nat := if target = place then next else place + 1
    match document.items[target]?, inner with
    | some (.scalar tag text plain), _ => do
      return (← schema.scalar tag text plain, place + 1, followed)
    | some (.sequenceStart tag), some value => do
      let (entries, next, followed) ← document.sequenceAt value bound [] (target + 1) followed
      return (← schema.sequence tag entries, after next, followed)
    | some (.mappingStart tag), some value => do
      let (entries, next, followed) ← document.mappingAt schema value bound [] (target + 1) followed
      return (← schema.mapping tag entries, after next, followed)
    | _, _ => none

/-- Reads the value at a place, its collections at most `depth` deep. -/
def valueAt (document : Document) (schema : Schema α) : Nat → ValueReader α
  | 0 => document.nodeAt schema none
  | depth + 1 => document.nodeAt schema (some (document.valueAt schema depth))

def interpret (document : Document) (schema : Schema α) : Option α :=
  if document.items.isEmpty then some schema.void
  else (document.valueAt schema maxDepth 0 0).map Prod.fst

end Document

end SigilLookup.Yaml
