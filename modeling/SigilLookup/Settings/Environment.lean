import SigilLookup.Settings.Setting
import SigilLookup.Text.Split

/-!
# Settings from the environment

A variable whose name begins with `SIGIL__`, in any case of letters, sets the field named by the
rest, two underscores standing for a step into a table. Its value is read as a truth value, an
integer or a floating-point number if it is spelled like one; otherwise it is text, and for the
two lists of paths it is a list of the texts between commas.
-/

namespace SigilLookup.Environment

/-- What the names of the variables begin with, in lower case. -/
def start : List Char := "sigil__".toList

/-- The fields whose values are lists. -/
def listFields : List String := ["constants_files", "file_constants_dirs"]

/-- Puts a dot for every two underscores, from the left. -/
def dotted : List Char → List Char
  | '_' :: '_' :: rest => '.' :: dotted rest
  | c :: rest => c :: dotted rest
  | [] => []

/-- A letter of a name in lower case. U+212A is the one character beyond ASCII that is an ASCII letter
in lower case. A name with any other one beyond ASCII is no field and no path into one, so these
may stay as they are. -/
def lowerLetter (c : Char) : Char := if c = '\u212a' then 'k' else c.toLower

/-- The name that a variable sets, if it is one of the settings. -/
def settingName? (envName : String) : Option String :=
  let name := envName.toList.map lowerLetter
  if start.isPrefixOf name then some (String.ofList (dotted (name.drop start.length))) else none

def commaList (text : String) : List String := (splitOn ',' text.toList).map String.ofList

/-- What the value of a variable stands for under the name that it sets. -/
def settingValue (name value : String) : Setting :=
  let lower := Setting.lowered value
  if lower = "true" then .bool true
  else if lower = "false" then .bool false
  else
    match Numeral.int64? value.toList, Numeral.double? value.toList with
    | some integer, _ => .integer integer
    | none, some double => .double double
    | none, none =>
      if listFields.contains name then .list ((commaList value).map .text) else .text value

/-- The layer of the environment: of variables that set one name the last counts. Names keep the order
in which they first come; where one variable steps into what another one sets, the environment
promises no order, and this is one of those that may come. -/
def layer (environment : List (String × String)) : List (String × Setting) :=
  environment.foldl (fun names (envName, value) =>
    match settingName? envName with
    | some name => Entries.insert name (settingValue name value) names
    | none => names) []

end SigilLookup.Environment
