import SigilLookup.Settings.Setting
import SigilLookup.Settings.Yaml.Tokens
import SigilLookup.Yaml.Document

/-!
# Settings in YAML

`Yaml.Plain.read?` reads a settings file in YAML. Fewer plain scalars have a meaning of their own
than in documents of data: `~`, `null` and nothing at all are nothing, truth values are written in
lower case, in upper case or capitalised, and numbers are 64-bit integers in decimal, hexadecimal or
octal, or floating-point decimals. Every other scalar is text, and so is one with quotes or with
a tag of its own. The words for infinities and not-a-number are numbers without a value, which only keys
may be.

A node that its tag does not fit, and an alias within the node it stands for, are misfits. A misfit
is nothing as a value. In the place of a key it is passed over, so that the value after it becomes
the key.
-/

namespace SigilLookup.Yaml.Plain

/-! ### Scalars -/

def specialDoubles : List String :=
  [".inf", ".Inf", ".INF", "+.inf", "+.Inf", "+.INF", "-.inf", "-.Inf", "-.INF", ".nan", ".NaN",
    ".NAN"]

/-- The integer that a text spells after a mark for its base or a plus sign. -/
def markedInteger? : List Char → Option Int
  | '0' :: 'x' :: digits => Numeral.int64In? 16 digits
  | '0' :: 'o' :: digits => Numeral.int64In? 8 digits
  | '+' :: digits => Numeral.int64? digits
  | _ => none

def integer? (text : String) : Option Int :=
  (markedInteger? text.toList).or (Numeral.int64? text.toList)

/-- The floating-point number that a text with a digit spells. -/
def double? (text : String) : Option Double :=
  if text.toList.any Char.isDigit then Numeral.double? text.toList else none

def bool? (text : String) : Option Bool :=
  if ["true", "True", "TRUE"].contains text then some true
  else if ["false", "False", "FALSE"].contains text then some false
  else none

/-! ### Nodes -/

/-- What a node is as a key. -/
inductive Key where
  | misfit
  | text (text : String)
  | integer (value : Int)
  | bool (value : Bool)
  | double (text : String)
  /-- A node that no entry may have as its key. -/
  | other
deriving DecidableEq

/-- A node: what it is as a key, and its value. -/
structure Node where
  key : Key
  setting : Option Setting

namespace Node

/-- A node that is nothing, or a misfit. -/
def nothing (key : Key) : Node := ⟨key, some .nothing⟩

def ofText (text : String) : Node := ⟨.text text, some (.text text)⟩

def ofInteger (value : Int) : Node := ⟨.integer value, some (.integer value)⟩

def ofBool (value : Bool) : Node := ⟨.bool value, some (.bool value)⟩

def double? (text : String) : Option Node :=
  if specialDoubles.contains text then some ⟨.double text, none⟩
  else (Plain.double? text).map fun value => ⟨.double text, some (.double value)⟩

/-- A scalar that has neither tag nor quotes. -/
def ofPlain (text : String) : Node :=
  match bool? text, integer? text, double? text with
  | some value, _, _ => ofBool value
  | none, some value, _ => ofInteger value
  | none, none, some node => node
  | none, none, none => if ["", "~", "null"].contains text then nothing .other else ofText text

/-- What the handle of the tags that every document knows stands for. -/
def coreHandle : String := "tag:yaml.org,2002:"

def ofScalar (tag : Option Tag) (text : String) (plain : Bool) : Node :=
  match plain, tag with
  | false, _ => ofText text
  | true, none => ofPlain text
  | true, some tag =>
    if tag.handle ≠ coreHandle then ofText text
    else if tag.suffix = "bool" then (bool? text).elim (nothing .misfit) ofBool
    else if tag.suffix = "int" then
      (Numeral.int64? text.toList).elim (nothing .misfit) ofInteger
    else if tag.suffix = "float" then (double? text).getD (nothing .misfit)
    else if tag.suffix = "null" then
      nothing (if ["~", "null"].contains text then .other else .misfit)
    else ofText text

def ofItems (items : List (Option Setting)) : Node := ⟨.other, (items.mapM id).map .list⟩

end Node

def Key.name? : Key → Option String
  | .text written => some written
  | .integer value => some (toString value)
  | .bool value => some (if value then "true" else "false")
  | .double written => some written
  | _ => none

/-- A mapping. Of entries with one name the last counts. -/
def Node.ofEntries (entries : List (Key × Option Setting)) : Node :=
  let table : Option (List (String × Setting)) := entries.foldlM (fun table entry => do
    return Entries.insert (← entry.1.name?) (← entry.2) table) []
  ⟨.other, table.map .table⟩

/-! ### Building nodes from the items of a document -/

/-- A collection being read, last entry first, with the place of its first item. A mapping also has
the key that waits for its value. -/
inductive Frame where
  | sequence (place : Nat) (items : List (Option Setting))
  | mapping (place : Nat) (key : Key) (entries : List (Key × Option Setting))

/-- How far the items of a document have been read: the collections that are open, the innermost one
first, the node that is the whole document once it is complete, and all nodes by their places. -/
structure Build where
  frames : List Frame := []
  root : Option Node := none
  nodes : List (Nat × Node) := []

namespace Build

/-- Adds a node to the innermost collection. No key may be repeated. -/
def add? (build : Build) (node : Node) : Option Build :=
  match build.frames with
  | [] => some { build with root := some node }
  | .sequence place items :: outer =>
    some { build with frames := .sequence place (node.setting :: items) :: outer }
  | .mapping place key entries :: outer =>
    if key = .misfit then some { build with frames := .mapping place node.key entries :: outer }
    else if (entries.lookup key).isSome then none
    else
      some { build with
        frames := .mapping place .misfit ((key, node.setting) :: entries) :: outer }

def addAt? (build : Build) (place : Nat) (node : Node) : Option Build :=
  { build with nodes := (place, node) :: build.nodes }.add? node

def item? (document : Document) (build : Build) (item : Item) (place : Nat) : Option Build :=
  match item, build.frames with
  | .scalar tag text plain, _ => build.addAt? place (.ofScalar tag text plain)
  | .alias number, _ =>
    let node := (document.targets.lookup number).bind fun target => build.nodes.lookup target
    build.add? (node.getD (.nothing .misfit))
  | .sequenceStart _, frames => some { build with frames := .sequence place [] :: frames }
  | .mappingStart _, frames => some { build with frames := .mapping place .misfit [] :: frames }
  | .sequenceEnd, .sequence start items :: outer =>
    { build with frames := outer }.addAt? start (.ofItems items.reverse)
  | .mappingEnd, .mapping start _ entries :: outer =>
    { build with frames := outer }.addAt? start (.ofEntries entries.reverse)
  | _, _ => none

end Build

def nodeOf? (document : Document) : Option Node := do
  let build ← document.items.toList.zipIdx.foldlM
    (fun build (item, place) => build.item? document item place) ({} : Build)
  build.root

/-! ### Documents -/

def skipEnds (tokens : List Token) : List Token := tokens.dropWhile (· == .documentEnd)

/-- Reads the directives of a document: the tag handles that the last of them declares, and the
tokens that are left. -/
def readDirectives (hasVersion : Bool) (handles : List (String × String)) :
    List Token → Option (List (String × String) × List Token)
  | .version _ _ :: rest => if hasVersion then none else readDirectives true [] rest
  | .tagHandle handle replacement :: rest =>
    readDirectives hasVersion [(handle, replacement)] rest
  | rest => some (handles, rest)

/-- Reads the document that some tokens make up; none stands for a text without a document. -/
def document? (tokens : List Token) : Option (Option Document) := do
  let bound := tokens.length + 1
  match skipEnds tokens with
  | [.streamEnd] => some none
  | tokens => do
    let (handles, rest) ← readDirectives false [] tokens
    let node := readNode (handles ++ defaultHandles) bound bound
    let draft : Draft := { dialect := .settings }
    let (draft, rest) ←
      match rest with
      | .documentStart :: rest => nodeUnless node true false isBetweenDocuments (draft, rest)
      | rest => if tokens.head?.any isBetweenDocuments then none else node true false (draft, rest)
    if onlyEnds rest then some (some draft.document) else none

/-- Reads the text of a settings file. A text without a document is an empty table. -/
def read? (text : String) : Option Setting := do
  match ← document? (← tokens? text) with
  | none => some (.table [])
  | some document => (← nodeOf? document).setting

end SigilLookup.Yaml.Plain
