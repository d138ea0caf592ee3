import SigilLookup.Text.Quoted

/-!
# Dumps

A dump shows a value for a person who debugs: a tree of names, fields, lists and maps. It is written
either on one line or expanded, with one part a line, four blanks deeper than what holds it and
a comma after each.
-/

namespace SigilLookup

/-- What a dump is made of. -/
inductive Dump where
  | atom (text : String)
  /-- A word in front of another part. -/
  | labelled (label : String) (part : Dump)
  /-- A named value with one part in parentheses. -/
  | wrapped (name : String) (part : Dump)
  /-- A named value with named fields, and whether more fields exist that are not shown. -/
  | fields (name : String) (parts : List (String × Dump)) (more : Bool)
  | list (parts : List Dump)
  | map (parts : List (Dump × Dump))

namespace Dump

def quoted (text : String) : Dump := .atom (Quoted.quote text)

mutual

def line : Dump → String
  | .atom text => text
  | .labelled label part => label ++ " " ++ part.line
  | .wrapped name part => name ++ "(" ++ part.line ++ ")"
  | .fields name parts more =>
    name ++ " \x7b " ++ ", ".intercalate (fieldLines parts ++ if more then [".."] else []) ++
      " \x7d"
  | .list parts => "[" ++ ", ".intercalate (lines parts) ++ "]"
  | .map parts => "\x7b" ++ ", ".intercalate (entryLines parts) ++ "\x7d"

def lines : List Dump → List String
  | [] => []
  | part :: rest => part.line :: lines rest

def fieldLines : List (String × Dump) → List String
  | [] => []
  | (name, part) :: rest => (name ++ ": " ++ part.line) :: fieldLines rest

def entryLines : List (Dump × Dump) → List String
  | [] => []
  | (key, part) :: rest => (key.line ++ ": " ++ part.line) :: entryLines rest

end

/-- A bracketed block of parts, each on lines of its own. -/
def block (opening closing : String) (depth : Nat) (parts : List String) : String :=
  if parts.isEmpty then opening ++ closing
  else
    let indent := "".pushn ' ' (4 * depth)
    opening ++ "\n" ++ String.join (parts.map fun part => indent ++ "    " ++ part ++ "\n") ++
      indent ++ closing

mutual

/-- The dump with one part a line; `depth` is how deep the dump itself stands. -/
def expand (depth : Nat) : Dump → String
  | .atom text => text
  | .labelled label part => label ++ " " ++ part.expand depth
  | .wrapped name part => name ++ block "(" ")" depth [part.expand (depth + 1) ++ ","]
  | .fields name parts more =>
    name ++ block " \x7b" "\x7d" depth
      (expandFields (depth + 1) parts ++ if more then [".."] else [])
  | .list parts => block "[" "]" depth (expandList (depth + 1) parts)
  | .map parts => block "\x7b" "\x7d" depth (expandMap (depth + 1) parts)

def expandList (depth : Nat) : List Dump → List String
  | [] => []
  | part :: rest => (part.expand depth ++ ",") :: expandList depth rest

def expandFields (depth : Nat) : List (String × Dump) → List String
  | [] => []
  | (name, part) :: rest => (name ++ ": " ++ part.expand depth ++ ",") :: expandFields depth rest

def expandMap (depth : Nat) : List (Dump × Dump) → List String
  | [] => []
  | (key, part) :: rest =>
    (key.expand depth ++ ": " ++ part.expand depth ++ ",") :: expandMap depth rest

end

def expanded (dump : Dump) : String := dump.expand 0

end Dump

end SigilLookup
