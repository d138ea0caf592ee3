import SigilLookup.Decimal.Numeral
import SigilLookup.Decimal.Shortest
import SigilLookup.Key
import SigilLookup.OrderedMap
import SigilLookup.Path

/-!
# Settings, and how they are written

Settings say how a resolver is put together. A settings file or an environment variable holds a tree
of values, whatever its notation. A value becomes what a field needs only in the end, after all
layers have been put over one another: a truth value may be written as a word or a number
(`Setting.asBool?_eq_some_iff`), a path as any scalar (`Setting.asText?_eq_none_iff`), the grammar
also as a table whose only key names it (`Setting.asGrammar?_eq_some_iff`). Nothing converts to a
list but a list (`Setting.asPaths?_eq_some_iff`).
-/

namespace SigilLookup

structure Settings where
  grammar : Grammar := .lenient
  /-- Documents of constants, merged in order. -/
  constantsFiles : List Path := []
  /-- Directories whose files become constants, merged in order. -/
  fileConstantsDirs : List Path := []
  /-- Whether a missing directory is an error; otherwise it is passed over with a warning. -/
  failOnMissingDir : Bool := false
deriving DecidableEq

inductive Setting where
  | nothing
  | bool (value : Bool)
  | integer (value : Int)
  | double (value : Double)
  | text (value : String)
  | list (items : List Setting)
  | table (entries : List (String × Setting))
deriving Inhabited

namespace Setting

/-- ASCII letters in lower case. The words looked for have no letter that another alphabet's upper
case letters are folded to. -/
def lowered (text : String) : String := String.ofList (Numeral.lowered text.toList)

def boolWords : Bool → List String
  | true => ["1", "true", "on", "yes"]
  | false => ["0", "false", "off", "no"]

def boolWord? (text : String) : Option Bool :=
  if (boolWords true).contains (lowered text) then some true
  else if (boolWords false).contains (lowered text) then some false
  else none

/-- The value as a truth value: numbers are true unless they are zero. -/
def asBool? : Setting → Option Bool
  | .bool value => some value
  | .integer value => some (value != 0)
  | .double (.finite value) => some (!value.isZero)
  | .double _ => some true
  | .text value => boolWord? value
  | _ => none

def doubleText : Double → String
  | .finite value => Shortest.positional value
  | .infinite negative => if negative then "-inf" else "inf"
  | .nan => "NaN"

def asText? : Setting → Option String
  | .bool value => some (if value then "true" else "false")
  | .integer value => some (toString value)
  | .double value => some (doubleText value)
  | .text value => some value
  | _ => none

def asPaths? : Setting → Option (List Path)
  | .list items => items.mapM fun item => item.asText?.map Path.ofString
  | _ => none

def asGrammar? : Setting → Option Grammar
  | .text value => Grammar.ofLabel? value
  | .table [(name, _)] => Grammar.ofLabel? name
  | _ => none

theorem boolWord?_eq_some_iff {text : String} {value : Bool} :
    boolWord? text = some value ↔ lowered text ∈ boolWords value := by
  -- no word stands for both truth values
  have hdisjoint : ∀ word ∈ boolWords true, word ∉ boolWords false := by decide
  unfold boolWord?
  split
  case isTrue htrue =>
    have hmem : lowered text ∈ boolWords true := List.contains_iff_mem.mp htrue
    cases value with
    | true => simp [hmem]
    | false => simp [hdisjoint _ hmem]
  case isFalse htrue =>
    have hnot : lowered text ∉ boolWords true := fun hmem => htrue (List.contains_iff_mem.mpr hmem)
    split
    case isTrue hfalse =>
      have hmem : lowered text ∈ boolWords false := List.contains_iff_mem.mp hfalse
      cases value with
      | true => simp [hnot]
      | false => simp [hmem]
    case isFalse hfalse =>
      have hnone : lowered text ∉ boolWords false :=
        fun hmem => hfalse (List.contains_iff_mem.mpr hmem)
      cases value with
      | true => simp [hnot]
      | false => simp [hnone]

/-- Numbers are true unless they are a zero; of words only eight are truth values, and no list or
table is one. -/
theorem asBool?_eq_some_iff {setting : Setting} {value : Bool} :
    setting.asBool? = some value ↔
      setting = .bool value ∨
      (∃ number : Int, setting = .integer number ∧ (value = false ↔ number = 0)) ∨
      (∃ number : Double, setting = .double number ∧
        (value = false ↔ ∃ zero, number = .finite zero ∧ zero.isZero = true)) ∨
      ∃ text, setting = .text text ∧ lowered text ∈ boolWords value := by
  cases setting with
  | text text => simp [asBool?, boolWord?_eq_some_iff]
  | integer number => cases value <;> simp [asBool?]
  | double number => cases number <;> cases value <;> simp [asBool?]
  | _ => simp [asBool?]

theorem asText?_eq_none_iff {setting : Setting} :
    setting.asText? = none ↔
      setting = .nothing ∨ (∃ items, setting = .list items) ∨
        ∃ entries, setting = .table entries := by
  cases setting <;> simp [asText?]

/-- A list of paths is a list of scalars, each the text of its path. -/
theorem asPaths?_eq_some_iff {setting : Setting} {paths : List Path} :
    setting.asPaths? = some paths ↔
      ∃ (items : List Setting) (texts : List String), setting = .list items ∧
        items.map asText? = texts.map some ∧ paths = texts.map Path.ofString := by
  cases setting with
  | list items =>
      simp only [asPaths?, list.injEq, exists_and_left, exists_eq_left']
      induction items generalizing paths with
      | nil =>
          constructor
          · intro hpaths
            cases hpaths
            exact ⟨[], rfl, rfl⟩
          · rintro ⟨texts, hnil, rfl⟩
            rw [List.map_eq_nil_iff.mp hnil.symm]
            rfl
      | cons item rest ih =>
          rw [List.mapM_cons]
          simp only [Option.bind_eq_bind, Option.bind_eq_some_iff, Option.pure_def,
            Option.map_eq_some_iff, ih]
          constructor
          · rintro ⟨_, ⟨text, htext, rfl⟩, _, ⟨texts, htexts, rfl⟩, hpaths⟩
            cases hpaths
            exact ⟨text :: texts, by rw [List.map_cons, List.map_cons, htext, htexts], rfl⟩
          · rintro ⟨texts, htexts, rfl⟩
            cases texts with
            | nil => cases htexts
            | cons text texts =>
                obtain ⟨htext, hrest⟩ := List.cons.inj htexts
                exact ⟨_, ⟨text, htext, rfl⟩, _, ⟨texts, hrest, rfl⟩, rfl⟩
  | _ => simp [asPaths?]

/-- A grammar is its name, alone or as the only name of a table. -/
theorem asGrammar?_eq_some_iff {setting : Setting} {grammar : Grammar} :
    setting.asGrammar? = some grammar ↔
      setting = .text grammar.label ∨ ∃ inner, setting = .table [(grammar.label, inner)] := by
  unfold asGrammar?
  split
  case h_1 text => simp [Grammar.ofLabel?_eq_some_iff]
  case h_2 name inner => simp [Grammar.ofLabel?_eq_some_iff]
  case h_3 htext htable =>
    constructor
    · intro hnone
      cases hnone
    · rintro (rfl | ⟨inner, rfl⟩)
      · exact absurd rfl (htext _)
      · exact absurd rfl (htable _ _)

def entries? : Setting → Option (List (String × Setting))
  | .table entries => some entries
  | _ => none

def entriesOrNone (setting : Setting) : List (String × Setting) := setting.entries?.getD []

/-! ### Layers -/

mutual

/-- Puts a value over another one. The entries of a table are put one by one over those below, so
a table without entries leaves what is there; anything else replaces it. -/
def laidOver : Setting → Setting → Setting
  | .table [], .nothing => .table []
  | .table [], below => below
  | .table (entry :: rest), below => .table (overEntries (entry :: rest) below.entriesOrNone)
  | value, _ => value

def overEntries : List (String × Setting) → List (String × Setting) → List (String × Setting)
  | [], below => below
  | (name, value) :: rest, below =>
    overEntries rest
      (Entries.insert name (value.laidOver ((Entries.find? name below).getD .nothing)) below)

end

inductive Step where
  | entry (name : String)
  | item (index : Int)
deriving DecidableEq

def isNameChar (c : Char) : Bool := c.isAlphanum || c == '_' || c == '-'

/-- Blanks, which may stand around an index. -/
def isBlank (c : Char) : Bool := c == ' ' || c == '\t'

/-- Reads steps: a name after a dot, or an index in brackets. -/
def steps? : Nat → List Char → Option (List Step)
  | _, [] => some []
  | bound + 1, '.' :: rest => do
    let name := rest.takeWhile isNameChar
    if name = [] then none
    else return .entry (String.ofList name) :: (← steps? bound (rest.dropWhile isNameChar))
  | bound + 1, '[' :: rest => do
    let isDigit (c : Char) : Bool := c.isDigit || c == '-'
    let rest := rest.dropWhile isBlank
    let index ← Numeral.int64? (rest.takeWhile isDigit)
    match (rest.dropWhile isDigit).dropWhile isBlank with
    | ']' :: rest => return .item index :: (← steps? bound rest)
    | _ => none
  | _, _ => none

/-- The steps that a name of a layer stands for. A name that is no path of steps is one step. -/
def stepsOf (name : String) : List Step :=
  let cs := name.toList
  let first := cs.takeWhile isNameChar
  match first, steps? cs.length (cs.dropWhile isNameChar) with
  | [], _ => [.entry name]
  | first, some steps => .entry (String.ofList first) :: steps
  | _, none => [.entry name]

/-- A list made long enough for an index, and the place of the index in it; a negative index counts
from the end. -/
def reach (index : Int) (items : List Setting) : List Setting × Nat :=
  if 0 ≤ index then
    (items ++ List.replicate (index.toNat + 1 - items.length) .nothing, index.toNat)
  else if index.natAbs ≤ items.length then (items, items.length - index.natAbs)
  else (List.replicate (index.natAbs - items.length) .nothing ++ items, 0)

/-- Puts a value at the end of a path of steps; what is in the way is replaced. -/
def put (value : Setting) : List Step → Setting → Setting
  | [], below => value.laidOver below
  | .entry name :: rest, below =>
    let entries := below.entriesOrNone
    .table (Entries.insert name
      (put value rest ((Entries.find? name entries).getD .nothing)) entries)
  | .item index :: rest, below =>
    let items := match below with
      | .list items => items
      | _ => []
    let (items, place) := reach index items
    .list (items.set place (put value rest (items[place]?.getD .nothing)))

/-- Puts a layer over what is below it, name by name. The order of the names counts only where one
steps into what another one sets; a layer promises no order of such names, and here it is that of
the list. -/
def layer (below : Setting) (names : List (String × Setting)) : Setting :=
  names.foldl (fun below (name, value) => put value (stepsOf name) below) below

/-- Puts layers over one another, the last one uppermost. -/
def ofLayers (layers : List (List (String × Setting))) : Setting :=
  layers.foldl layer (.table [])

end Setting

namespace Settings

/-- Reads a field, or takes the default if it is not there. -/
def field? (entries : List (String × Setting)) (name : String) (read : Setting → Option α)
    (default : α) : Option α :=
  match Entries.find? name entries with
  | some value => read value
  | none => some default

/-- The settings that a table of values stands for. Names that are no field have no effect. -/
def ofSetting? (setting : Setting) : Option Settings := do
  let entries := setting.entriesOrNone
  let grammar ← field? entries "grammar" Setting.asGrammar? .lenient
  let constantsFiles ← field? entries "constants_files" Setting.asPaths? []
  let fileConstantsDirs ← field? entries "file_constants_dirs" Setting.asPaths? []
  let failOnMissingDir ← field? entries "fail_on_missing_dir" Setting.asBool? false
  return { grammar, constantsFiles, fileConstantsDirs, failOnMissingDir }

end Settings

end SigilLookup
