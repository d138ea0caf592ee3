import SigilLookup.Yaml.Cursor

/-!
# A place in a settings file in YAML

A place holds the characters that are left, how many precede them, the line and the column, and
whether nothing but blanks precedes on the line. Lines end with a line feed, a carriage return, or
both in this order.
-/

namespace SigilLookup.Yaml.Plain

def isLineBreak (c : Char) : Bool := c == '\n' || c == '\r'

def atLineEnd : List Char → Bool
  | [] => true
  | c :: _ => isLineBreak c

/-- Tells whether a word ends here: at a blank, a line break or the end of the text. -/
def atWordEnd : List Char → Bool
  | [] => true
  | c :: _ => isBlank c || isLineBreak c

structure Place where
  rest : List Char
  index : Nat := 0
  line : Nat := 0
  column : Nat := 0
  /-- Nothing but blanks precedes on the line. -/
  leading : Bool := true

namespace Place

def passBlanks (place : Place) (count : Nat) : Place :=
  { place with
    rest := place.rest.drop count
    index := place.index + count
    column := place.column + count }

/-- Passes over characters of one line, none of the first of them a blank. -/
def pass (place : Place) (count : Nat) : Place :=
  { place.passBlanks count with leading := place.leading && count == 0 }

/-- Passes over the characters with a property, none of the first of them a blank. -/
def passWhile (place : Place) (p : Char → Bool) : Place :=
  place.pass (place.rest.takeWhile p).length

def nextLine (place : Place) (count : Nat) : Place :=
  { rest := place.rest.drop count, index := place.index + count, line := place.line + 1 }

def passBreak (place : Place) : Place :=
  match place.rest with
  | '\r' :: '\n' :: _ => place.nextLine 2
  | c :: _ => if isLineBreak c then place.nextLine 1 else place
  | [] => place

def passComment (place : Place) : Place :=
  if place.rest.head? = some '#' then place.passWhile fun c => !isLineBreak c else place

/-- Passes over blanks, and over a comment after them; none if a comment follows without a blank.
The list holds the blanks. -/
def passLineRest? (place : Place) : Option (List Char × Place) :=
  let blanks := place.rest.takeWhile isBlank
  let after := place.passBlanks blanks.length
  if after.rest.head? = some '#' then
    if blanks = [] then none else some (blanks, after.passComment)
  else some (blanks, after)

/-- Passes over blanks and a comment after them up to the end of the line; none if something else is
there. -/
def passToLineEnd? (place : Place) : Option Place := do
  let (_, place) ← place.passLineRest?
  if atLineEnd place.rest then some place else none

def atDocumentStart (place : Place) : Bool :=
  place.column == 0 && place.rest.take 3 == ['-', '-', '-'] && atWordEnd (place.rest.drop 3)

def atDocumentEnd (place : Place) : Bool :=
  place.column == 0 && place.rest.take 3 == ['.', '.', '.'] && atWordEnd (place.rest.drop 3)

def atDocumentMark (place : Place) : Bool := place.atDocumentStart || place.atDocumentEnd

end Place

/-- Reads on in a gap between two words of a scalar. `onTab` tells how to go on after a tab left
of `indent` at the start of a line. The break after a comment counts as the first one again. -/
def readGap (onTab : Place → Option Place) (indent : Int) :
    Nat → Gap → Place → Option (Gap × Place)
  | 0, gap, place => some (gap, place)
  | bound + 1, gap, place =>
    match place.rest with
    | [] => some (gap, place)
    | c :: _ =>
      if isBlank c then
        if gap.broken then do
          let isMisplaced := c == '\t' && (place.column : Int) < indent
          let place ← if isMisplaced then onTab place else some (place.passBlanks 1)
          readGap onTab indent bound gap place
        else
          readGap onTab indent bound { gap with blanks := gap.blanks ++ [c] } (place.passBlanks 1)
      else if isLineBreak c then
        let gap : Gap :=
          if gap.broken ∧ place.leading then { gap with moreBreaks := gap.moreBreaks ++ ['\n'] }
          else { gap with blanks := [], firstBreak := ['\n'], broken := true }
        readGap onTab indent bound gap place.passBreak
      else some (gap, place)

end SigilLookup.Yaml.Plain
