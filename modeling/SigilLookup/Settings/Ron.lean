import SigilLookup.Settings.Ron.Literal

/-!
# RON

`Ron.read?` reads one value in object notation with records, tuples and variants. A record in
parentheses is a table, with or without a name in front; a tuple is a list; a bare name, `()` and
`None` are nothing; `Some` stands for what it holds. The keys of a map in braces must be texts,
characters or octets of a text. A range of numbers is a table of its ends.

Comments run to the end of the line or stand between `/*` and `*/`, which nest. A text may open with
attributes. Of the extensions that an attribute may enable, two change what is read here: `Some`
may stand before a value without parentheses, or hold the items of a tuple or the fields of a record
without parentheses of their own, or nothing at all.
-/

namespace SigilLookup.Ron

open Reading

/-! ### Blanks and comments -/

def isBlank (c : Char) : Bool :=
  ('\t' ≤ c && c ≤ '\r') || c == ' ' || c == '\x85' || c == '\u200e' || c == '\u200f' ||
    c == '\u2028' || c == '\u2029'

/-- What is being passed over between two tokens; block comments with the depth of their nesting. -/
inductive Skipping where
  | blanks
  | lineComment
  | blockComment (depth : Nat)
deriving DecidableEq

/-- Passes over blanks and comments; none if a comment does not end. -/
def skip : Skipping → List Char → Option (List Char)
  | .blockComment depth, '*' :: '/' :: rest =>
    skip (if depth = 0 then .blanks else .blockComment (depth - 1)) rest
  | .blockComment depth, '/' :: '*' :: rest => skip (.blockComment (depth + 1)) rest
  | .blockComment depth, _ :: rest => skip (.blockComment depth) rest
  | .blockComment _, [] => none
  | .lineComment, c :: rest => skip (if c = '\n' then .blanks else .lineComment) rest
  | .lineComment, [] => some []
  | .blanks, '/' :: '*' :: rest => skip (.blockComment 0) rest
  | .blanks, '/' :: '/' :: rest => skip .lineComment rest
  | .blanks, c :: rest => if isBlank c then skip .blanks rest else some (c :: rest)
  | .blanks, [] => some []

/-- The extensions that change what is read. -/
structure Extensions where
  /-- `Some` may be left out. -/
  impliesSome : Bool := false
  /-- `Some` may hold several items or fields. -/
  unwrapsVariants : Bool := false

/-! ### Parts of records, tuples and maps -/

def valueAfterColon (value : Reader Setting) : Reader Setting := fun cs => do
  match ← skip .blanks cs with
  | ':' :: rest => value (← skip .blanks rest)
  | _ => none

def field (value : Reader Setting) : Reader (String × Setting) := fun cs => do
  let (name, rest) ← fieldName cs
  let (setting, rest) ← valueAfterColon value rest
  return ((name, setting), rest)

def key : Reader String := fun cs =>
  match octets cs, character cs with
  | some (octets, rest), _ => (Utf8.decode? octets).map (·, rest)
  | none, some (c, rest) => some (c.toString, rest)
  | none, none => text cs

def entry (value : Reader Setting) : Reader (String × Setting) := fun cs => do
  let (key, rest) ← key cs
  let (setting, rest) ← valueAfterColon value rest
  return ((key, setting), rest)

/-- The table of entries; of those with one key the last counts. -/
def tableOf (entries : List (String × Setting)) : Setting :=
  .table (entries.foldl (fun table (key, setting) => Entries.insert key setting table) [])

/-- Tells whether what follows an opening parenthesis is a record: a name and a colon. -/
def startsRecord (cs : List Char) : Bool :=
  match skip .blanks cs with
  | some cs =>
    match name cs with
    | some (_, rest) => ((skip .blanks rest).bind List.head?) == some ':'
    | none => false
  | none => false

def grouped (bound : Nat) (value : Reader Setting) : Reader Setting := fun cs => do
  if startsRecord cs then
    let (fields, rest) ← separated (skip .blanks) (field value) ')' bound [] cs
    return (tableOf fields, rest)
  else
    let (items, rest) ← separated (skip .blanks) value ')' bound [] cs
    return (.list items, rest)

/-- Passes over a literal between quotes, if one starts here. -/
def skipLiteral (cs : List Char) : List Char :=
  match character cs, text cs, octets cs with
  | some (_, rest), _, _ => rest
  | none, some (_, rest), _ => rest
  | none, none, some (_, rest) => rest
  | none, none, none => cs

/-- Tells whether another item follows the one that starts here, before the parenthesis is closed
that both stand in. `nesting` counts the brackets open within the item. -/
def hasMoreItems : Nat → Nat → List Char → Bool
  | 0, _, _ => false
  | bound + 1, nesting, cs =>
    match (skip .blanks cs).map skipLiteral with
    | some (c :: rest) =>
      if c = '(' ∨ c = '[' ∨ c = '\x7b' then hasMoreItems bound (nesting + 1) rest
      else if c = ')' ∨ c = ']' ∨ c = '\x7d' then
        match nesting with
        | 0 => false
        | nesting + 1 => hasMoreItems bound nesting rest
      else if c = ',' ∧ nesting = 0 then ((skip .blanks rest).bind List.head?) != some ')'
      else hasMoreItems bound nesting rest
    | _ => false

/-- Passes over the end of the parentheses of `Some`, before which a comma may stand. -/
def closeSome (cs : List Char) : Option (List Char) := do
  let cs ← match ← skip .blanks cs with
    | ',' :: rest => skip .blanks rest
    | cs => some cs
  match cs with
  | ')' :: rest => some rest
  | _ => none

/-- Reads what follows `Some`: a value, or items or fields as those of a tuple or record, or empty
parentheses. -/
def afterSome (extensions : Extensions) (bound : Nat) (value part : Reader Setting) :
    Reader Setting := fun cs => do
  match ← skip .blanks cs with
  | '(' :: rest =>
    if extensions.unwrapsVariants ∧ (startsRecord rest ∨ hasMoreItems bound 0 rest) then
      grouped bound part rest
    else
      let rest ← skip .blanks rest
      if extensions.unwrapsVariants ∧ rest.head? = some ')' then some (.nothing, rest.drop 1)
      else
        let (setting, rest) ← value rest
        return (setting, ← closeSome rest)
  | cs => if extensions.impliesSome then value cs else none

/-! ### Values -/

def reservedWords : List String := ["true", "false", "None", "Some"] ++ specialWords

/-- Reads a value that holds no other one. -/
def scalar : Reader Setting := fun cs =>
  match word? ["true", "false", "None"] cs, text cs, character cs, octets cs with
  | some (word, rest), _, _, _ =>
    some (if word = "None" then .nothing else .bool (word = "true"), rest)
  | none, some (text, rest), _, _ => some (.text text, rest)
  | none, none, some (c, rest), _ => some (.text c.toString, rest)
  | none, none, none, some (octets, rest) =>
    some (.list (octets.map fun byte => .integer byte.toNat), rest)
  | none, none, none, none =>
    if startsNumber cs then numeric cs
    else
      match cs with
      | '(' :: ')' :: rest => some (.nothing, rest)
      | cs => do
        let (_, rest) ← name cs
        if (word? ["Some"] cs).isSome ∨ (← skip .blanks rest).head? = some '(' then none
        else some (.nothing, rest)

/-- Reads a value. What a value in it may be depends on where it stands: `value` reads what `Some`
holds, `element` the items and fields of a collection, and `part` those that stand in `Some`. -/
def compound (extensions : Extensions) (bound : Nat) (value element part : Reader Setting) :
    Reader Setting := fun cs =>
  match cs with
  | '[' :: rest => do
    let (items, rest) ← separated (skip .blanks) element ']' bound [] rest
    return (.list items, rest)
  | '\x7b' :: rest => do
    let (entries, rest) ← separated (skip .blanks) (entry element) '\x7d' bound [] rest
    return (tableOf entries, rest)
  | '(' :: rest => if rest.head? = some ')' then scalar cs else grouped bound element rest
  | cs =>
    match word? ["Some"] cs, word? reservedWords cs, name cs with
    | some (_, rest), _, _ => afterSome extensions bound value part rest
    | none, none, some (_, rest) =>
      match skip .blanks rest with
      | some ('(' :: rest) => grouped bound element rest
      | _ => scalar cs
    | _, _, _ => scalar cs

/-- Stands for a value that would be nested too deep. -/
def tooDeep : Reader Setting := fun _ => none

/-- Reads a value with a given number of steps down into values. A collection takes one step, each
thing in it another one, and what `Some` holds one. -/
def value (extensions : Extensions) (bound : Nat) : Nat → Reader Setting
  | 0, cs => scalar cs
  | 1, cs => compound extensions bound (value extensions bound 0) tooDeep tooDeep cs
  | 2, cs =>
    compound extensions bound (value extensions bound 1) (value extensions bound 0) tooDeep cs
  | steps + 3, cs =>
    compound extensions bound (value extensions bound (steps + 2))
      (value extensions bound (steps + 1)) (value extensions bound steps) cs

def maxSteps : Nat := 128

/-! ### Texts -/

/-- An extension added to others by its name; none if there is no extension of that name. -/
def Extensions.add? (extensions : Extensions) (name : String) : Option Extensions :=
  if name = "implicit_some" then some { extensions with impliesSome := true }
  else if name = "unwrap_variant_newtypes" then some { extensions with unwrapsVariants := true }
  else if name = "unwrap_newtypes" ∨ name = "explicit_struct_names" then some extensions
  else none

/-- Passes over one character between blanks and comments. -/
def expect (c : Char) (cs : List Char) : Option (List Char) := do
  match ← skip .blanks cs with
  | d :: rest => if d = c then skip .blanks rest else none
  | [] => none

/-- Reads the attributes at the start of a text. The bound is on their number. -/
def attributes (extensions : Extensions) : Nat → Reader Extensions
  | 0, _ => none
  | bound + 1, cs => do
    match ← skip .blanks cs with
    | '#' :: rest => do
      let (word, rest) ← fieldName (← expect '[' (← expect '!' rest))
      if word = "enable" then
        let rest ← expect '(' rest
        let (names, rest) ← separated (skip .blanks) fieldName ')' (rest.length + 1) [] rest
        if names.isEmpty then none
        else attributes (← names.foldlM Extensions.add? extensions) bound (← expect ']' rest)
      else if word = "type" ∨ word = "schema" then
        let (_, rest) ← text (← expect '=' rest)
        attributes extensions bound (← expect ']' rest)
      else none
    | cs => some (extensions, cs)

def read? (text : String) : Option Setting := do
  let cs := text.toList
  let bound := cs.length + 1
  let (extensions, rest) ← attributes {} bound cs
  let (read, rest) ← value extensions bound maxSteps rest
  if (← skip .blanks rest).isEmpty then some read else none

end SigilLookup.Ron
