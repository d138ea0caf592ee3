/-!
# Splitting and trimming

Cutting a list at a separator: there is always one part more than there are separators, and putting
the separator back between the parts gives the list again. White space at the ends of a text is cut
off by the Unicode property `White_Space`: blanks of every width, tabs, and the ends of lines and
paragraphs.

Notations write lists, tables and records alike: items with a comma after each, up to a closing
character. The comma after the last item may be left out. What may stand around an item, blanks and
comments, is passed over by a function of the notation, which fails at a comment that does not end.
-/

namespace SigilLookup

/-! ### Separators -/

def splitOn [DecidableEq α] (separator : α) : List α → List (List α)
  | [] => [[]]
  | x :: rest =>
    if x = separator then [] :: splitOn separator rest
    else
      match splitOn separator rest with
      | [] => [[x]]
      | part :: parts => (x :: part) :: parts

/-- The parts before and after the first separator, if there is one. -/
def splitFirst? [DecidableEq α] (separator : α) (list : List α) : Option (List α × List α) :=
  match list.dropWhile (· != separator) with
  | [] => none
  | _ :: after => some (list.takeWhile (· != separator), after)

/-- The parts before and after the last separator, if there is one. -/
def splitLast? [DecidableEq α] (separator : α) (list : List α) : Option (List α × List α) :=
  (splitFirst? separator list.reverse).map fun (after, before) => (before.reverse, after.reverse)

/-! ### White space -/

def isWhiteSpace (c : Char) : Bool :=
  ('\t' ≤ c && c ≤ '\r') || c == ' ' || c == '\x85' || c == '\u00a0' || c == '\u1680' ||
    ('\u2000' ≤ c && c ≤ '\u200a') || c == '\u2028' || c == '\u2029' || c == '\u202f' ||
    c == '\u205f' || c == '\u3000'

def trimRight (cs : List Char) : List Char := (cs.reverse.dropWhile isWhiteSpace).reverse

def trim (cs : List Char) : List Char := trimRight (cs.dropWhile isWhiteSpace)

/-! ### Items between commas -/

namespace Reading

/-- Reads an item, and gives it with the characters that are left. -/
abbrev Reader (α : Type) := List Char → Option (α × List Char)

/-- Reads items up to the closing character; `read` holds the items so far, last one first. The
bound is on their number. -/
def separated (skip : List Char → Option (List Char)) (item : Reader α) (closing : Char) :
    Nat → List α → Reader (List α)
  | 0, _, _ => none
  | bound + 1, read, cs => do
    match ← skip cs with
    | [] => none
    | c :: rest =>
      if c = closing then some (read.reverse, rest)
      else
        let (value, rest) ← item (c :: rest)
        match ← skip rest with
        | [] => none
        | d :: rest =>
          if d = ',' then separated skip item closing bound (value :: read) rest
          else if d = closing then some ((value :: read).reverse, rest)
          else none

end Reading

end SigilLookup
