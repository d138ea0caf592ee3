import SigilLookup.Settings.Setting

/-!
# Tables in TOML

A table comes to be in one of three ways: a header defines it, a longer header implies it, or
dotted keys make it. It is defined once: a header may define a table that was only implied, and
dotted keys may go on with a table that dotted keys have made or that was only implied, which counts
as made by dotted keys once it holds a value of theirs; anything else that would define it again is
refused. A double header adds a table to an array of tables, and a path through such an array leads
to its last table, which counts as defined by its header.
-/

namespace SigilLookup.Toml

/-- How a table came to be. -/
inductive Origin where
  | header
  | implied
  | dotted
deriving DecidableEq

inductive Part where
  | value (setting : Setting)
  | table (origin : Origin) (entries : List (String × Part))
  | tables (all : List (List (String × Part)))

abbrev Parts := List (String × Part)

namespace Part

mutual

def setting : Part → Setting
  | .value held => held
  | .table _ entries => .table (settings entries)
  | .tables all => .list (settingsList all)

def settings : List (String × Part) → List (String × Setting)
  | [] => []
  | (name, part) :: rest => (name, part.setting) :: settings rest

def settingsList : List (List (String × Part)) → List Setting
  | [] => []
  | entries :: rest => .table (settings entries) :: settingsList rest

end

end Part

namespace Parts

/-- How to change the entries of a table that came to be in the given way, and with them how it came
to be. -/
abbrev Change := Origin → Parts → Option (Origin × Parts)

/-- Changes the table at the end of a path; the tables that are missing on the way come to be in the
way of `made`. Dotted keys do not lead into tables with a header. -/
def within (made : Origin) (change : Change) : List String → Change
  | [], origin, parts => change origin parts
  | name :: path, origin, parts =>
    match Entries.find? name parts with
    | none => do
      let (inner, entries) ← within made change path made []
      return (origin, Entries.insert name (.table inner entries) parts)
    | some (.table inner entries) =>
      if made = .dotted ∧ inner = .header then none
      else do
        let (inner, entries) ← within made change path inner entries
        return (origin, Entries.insert name (.table inner entries) parts)
    | some (.tables all) => do
      let (_, entries) ← within made change path .header (← all.getLast?)
      return (origin, Entries.insert name (.tables (all.dropLast ++ [entries])) parts)
    | some (.value _) => none

def atHeader (path : List String) (change : Parts → Option Parts) (parts : Parts) : Option Parts :=
  (within .implied (fun origin parts => (change parts).map (origin, ·)) path .header parts).map
    Prod.snd

def define (path : List String) (parts : Parts) : Option Parts := do
  let name ← path.getLast?
  atHeader path.dropLast (fun parts =>
    match Entries.find? name parts with
    | none => some (Entries.insert name (.table .header []) parts)
    | some (.table .implied inner) => some (Entries.insert name (.table .header inner) parts)
    | _ => none) parts

/-- Adds a table to the array of a double header. -/
def append (path : List String) (parts : Parts) : Option Parts := do
  let name ← path.getLast?
  atHeader path.dropLast (fun parts =>
    match Entries.find? name parts with
    | none => some (Entries.insert name (.tables [[]]) parts)
    | some (.tables all) => some (Entries.insert name (.tables (all ++ [[]])) parts)
    | _ => none) parts

/-- Sets the value of a dotted key. The table that a key of several names ends in must not have
a header, and counts as made by dotted keys from then on. -/
def assign (key : List String) (value : Setting) (parts : Parts) : Option Parts := do
  let name ← key.getLast?
  let isDotted := 1 < key.length
  let change : Change := fun origin parts =>
    if isDotted ∧ origin = .header ∨ (Entries.find? name parts).isSome then none
    else some (if isDotted then .dotted else origin, Entries.insert name (.value value) parts)
  (within .dotted change key.dropLast .header parts).map Prod.snd

end Parts

end SigilLookup.Toml
