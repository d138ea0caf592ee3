/-!
# A place in a YAML text

A cursor holds the characters that are left together with the position reached. Columns count
characters, and indices the octets of their encoding; a carriage return followed by a line feed is
one line break.

Blanks and line breaks between two words of a scalar are a `Gap`. Without a line break a gap stands
for itself; with one it is folded: the first break becomes a blank, or nothing if more follow.
-/

namespace SigilLookup.Yaml

def isAllowed (c : Char) : Bool :=
  c == '\t' || c == '\n' || c == '\r' || (' ' ≤ c && c ≤ '~') || c == '\x85' ||
    ('\xa0' ≤ c && c ≤ '\ud7ff') || ('\ue000' ≤ c && c ≤ '\ufffd') || 0x10000 ≤ c.toNat

def isBreak (c : Char) : Bool :=
  c == '\r' || c == '\n' || c == '\x85' || c == '\u2028' || c == '\u2029'

def isBlank (c : Char) : Bool := c == ' ' || c == '\t'

/-- Letters and digits of names: of directives, anchors and tag handles. -/
def isWordChar (c : Char) : Bool := c.isAlphanum || c == '_' || c == '-'

/-- Tells whether a word ends here: at a blank, a line break or the end of the text. -/
def endsWord : List Char → Bool
  | [] => true
  | c :: _ => isBlank c || isBreak c

def endsLine : List Char → Bool
  | [] => true
  | c :: _ => isBreak c

structure Cursor where
  rest : List Char
  index : Nat := 0
  line : Nat := 0
  column : Nat := 0

namespace Cursor

/-- The octets that the characters up to a count take. -/
def width (cursor : Cursor) (count : Nat) : Nat :=
  (cursor.rest.take count).foldl (fun width c => width + c.utf8Size) 0

/-- Passes over characters of one line. -/
def skip (cursor : Cursor) (count : Nat) : Cursor :=
  { cursor with
    rest := cursor.rest.drop count
    index := cursor.index + cursor.width count
    column := cursor.column + count }

def skipWhile (cursor : Cursor) (p : Char → Bool) : Cursor :=
  cursor.skip (cursor.rest.takeWhile p).length

/-- The characters with a property that come next, none of them a line break, and the place
after them. -/
def takeWhile (cursor : Cursor) (p : Char → Bool) : List Char × Cursor :=
  (cursor.rest.takeWhile p, cursor.skipWhile p)

def nextLine (cursor : Cursor) (count : Nat) : Cursor :=
  { rest := cursor.rest.drop count, index := cursor.index + cursor.width count,
    line := cursor.line + 1, column := 0 }

/-- Reads a line break, if there is one: what it stands for, and the place after it. -/
def readBreak (cursor : Cursor) : List Char × Cursor :=
  match cursor.rest with
  | '\r' :: '\n' :: _ => (['\n'], cursor.nextLine 2)
  | c :: _ =>
    if c = '\u2028' ∨ c = '\u2029' then ([c], cursor.nextLine 1)
    else if isBreak c then (['\n'], cursor.nextLine 1)
    else ([], cursor)
  | [] => ([], cursor)

def skipBreak (cursor : Cursor) : Cursor := cursor.readBreak.2

def skipComment (cursor : Cursor) : Cursor :=
  if cursor.rest.head? = some '#' then cursor.skipWhile fun c => !isBreak c else cursor

/-- Passes over blanks, a comment and the end of the line; none if something else is there. -/
def skipLineEnd? (cursor : Cursor) : Option Cursor :=
  let cursor := (cursor.skipWhile isBlank).skipComment
  if endsLine cursor.rest then some cursor.skipBreak else none

def atDocumentStart (cursor : Cursor) : Bool :=
  cursor.column == 0 && cursor.rest.take 3 == ['-', '-', '-'] && endsWord (cursor.rest.drop 3)

def atDocumentEnd (cursor : Cursor) : Bool :=
  cursor.column == 0 && cursor.rest.take 3 == ['.', '.', '.'] && endsWord (cursor.rest.drop 3)

def atDocumentMark (cursor : Cursor) : Bool := cursor.atDocumentStart || cursor.atDocumentEnd

end Cursor

/-- Blanks and line breaks between two words. -/
structure Gap where
  blanks : List Char := []
  firstBreak : List Char := []
  moreBreaks : List Char := []
  broken : Bool := false

namespace Gap

def text (gap : Gap) : List Char :=
  if gap.broken then
    if gap.firstBreak = ['\n'] then
      if gap.moreBreaks = [] then [' '] else gap.moreBreaks
    else gap.firstBreak ++ gap.moreBreaks
  else gap.blanks

/-- Reads on in a gap. A tab may not stand left of `indent` at the start of a line. -/
def read (indent : Int) : Nat → Gap → Cursor → Option (Gap × Cursor)
  | 0, gap, cursor => some (gap, cursor)
  | bound + 1, gap, cursor =>
    match cursor.rest with
    | [] => some (gap, cursor)
    | c :: _ =>
      if isBlank c then
        if gap.broken then
          if c = '\t' ∧ (cursor.column : Int) < indent then none
          else read indent bound gap (cursor.skip 1)
        else read indent bound { gap with blanks := gap.blanks ++ [c] } (cursor.skip 1)
      else if isBreak c then
        let (lineBreak, cursor) := cursor.readBreak
        if gap.broken then
          read indent bound { gap with moreBreaks := gap.moreBreaks ++ lineBreak } cursor
        else
          read indent bound { gap with blanks := [], firstBreak := lineBreak, broken := true }
            cursor
      else some (gap, cursor)

end Gap

end SigilLookup.Yaml
