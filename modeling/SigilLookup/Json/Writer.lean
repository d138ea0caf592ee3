import SigilLookup.Decimal.Shortest
import SigilLookup.Json.Basic
import SigilLookup.Text.Dump

/-!
# JSON texts

`Json.compact` writes a value without blanks. Of the characters of a string only the quote, the
backslash and those below U+0020 are escaped.

A dump names the kind of each value, so that a string, a number and a word of the same spelling are
told apart.
-/

namespace SigilLookup

/-- The text of a number: digits of an integer, the shortest decimal of a double. -/
def Number.text : Number → String
  | .int value _ => toString value
  | .float value => Shortest.exponential value

namespace Json

def escapeChar (c : Char) : List Char :=
  if c = '"' then ['\\', '"']
  else if c = '\\' then ['\\', '\\']
  else if c = '\x08' then ['\\', 'b']
  else if c = '\t' then ['\\', 't']
  else if c = '\n' then ['\\', 'n']
  else if c = '\x0c' then ['\\', 'f']
  else if c = '\r' then ['\\', 'r']
  else if c < ' ' then
    ['\\', 'u', '0', '0', Nat.digitChar (c.toNat / 16), Nat.digitChar (c.toNat % 16)]
  else [c]

def quotedChars (cs : List Char) : List Char := '"' :: (cs.flatMap escapeChar ++ ['"'])

mutual

def compactChars : Json → List Char
  | .null => ['n', 'u', 'l', 'l']
  | .bool true => ['t', 'r', 'u', 'e']
  | .bool false => ['f', 'a', 'l', 's', 'e']
  | .num value => value.text.toList
  | .str value => quotedChars value.toList
  | .arr items => '[' :: (compactItems items ++ [']'])
  | .obj members => '\x7b' :: (compactMembers members ++ ['\x7d'])

def compactItems : List Json → List Char
  | [] => []
  | [item] => compactChars item
  | item :: rest => compactChars item ++ ',' :: compactItems rest

def compactMembers : List (String × Json) → List Char
  | [] => []
  | [(name, value)] => quotedChars name.toList ++ ':' :: compactChars value
  | (name, value) :: rest =>
    quotedChars name.toList ++ ':' :: (compactChars value ++ ',' :: compactMembers rest)

end

/-- The text of a value without blanks. -/
def compact (value : Json) : String := String.ofList value.compactChars

/-! ### Dumps -/

mutual

def dump : Json → Dump
  | .null => .atom "Null"
  | .bool value => .atom ("Bool(" ++ (if value then "true" else "false") ++ ")")
  | .num value => .atom ("Number(" ++ value.text ++ ")")
  | .str value => .atom ("String(" ++ Quoted.quote value ++ ")")
  | .arr items => .labelled "Array" (.list (dumpItems items))
  | .obj members => .labelled "Object" (.map (dumpMembers members))

def dumpItems : List Json → List Dump
  | [] => []
  | item :: rest => item.dump :: dumpItems rest

def dumpMembers : List (String × Json) → List (Dump × Dump)
  | [] => []
  | (name, value) :: rest => (.quoted name, value.dump) :: dumpMembers rest

end

end Json

end SigilLookup
