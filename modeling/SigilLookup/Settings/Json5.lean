import SigilLookup.Settings.Setting
import SigilLookup.Text.Identifier
import SigilLookup.Text.Split

/-!
# JSON5

`Json5.read?` reads one value with comments and blanks around it. Beyond JSON, names of members
need no quotes, strings may stand in single quotes and run over escaped line breaks, the last item
may have a comma after it, and numbers may have a sign, be hexadecimal, start or end with their
point, or be infinite or not a number. An integer that fits no signed 64-bit word is
a floating-point number; a hexadecimal one must fit a 128-bit word.
-/

namespace SigilLookup.Json5

open Reading

def isLineEnd (c : Char) : Bool := c == '\n' || c == '\r' || c == '\u2028' || c == '\u2029'

def isBlank (c : Char) : Bool := (isWhiteSpace c && c != '\x85') || c == '\ufeff'

inductive Skipping where
  | blanks
  | lineComment
  | blockComment
deriving DecidableEq

/-- Passes over blanks and comments; none if a comment does not end. -/
def skip : Skipping → List Char → Option (List Char)
  | .blockComment, '*' :: '/' :: rest => skip .blanks rest
  | .blockComment, _ :: rest => skip .blockComment rest
  | .blockComment, [] => none
  | .lineComment, c :: rest => skip (if isLineEnd c then .blanks else .lineComment) rest
  | .lineComment, [] => some []
  | .blanks, '/' :: '*' :: rest => skip .blockComment rest
  | .blanks, '/' :: '/' :: rest => skip .lineComment rest
  | .blanks, c :: rest => if isBlank c then skip .blanks rest else some (c :: rest)
  | .blanks, [] => some []

/-! ### Strings and names -/

/-- The character of a code of at most 16 bits in hexadecimal digits. -/
def codeUnit? (digits : List Char) : Option Char := do
  let code ← Numeral.natural? 16 digits
  if code < 0xD800 ∨ 0xE000 ≤ code then some (Char.ofNat code) else none

def surrogatePair? (high low : List Char) : Option Char := do
  let high ← Numeral.natural? 16 high
  let low ← Numeral.natural? 16 low
  if 0xD800 ≤ high ∧ high < 0xDC00 ∧ 0xDC00 ≤ low ∧ low < 0xE000 then
    some (Char.ofNat (0x10000 + (high - 0xD800) * 0x400 + (low - 0xDC00)))
  else none

/-- The character that a one-letter escape stands for; digits but zero stand for nothing. -/
def letterEscape? (c : Char) : Option Char :=
  if c = 'b' then some '\x08'
  else if c = 'f' then some '\x0c'
  else if c = 'n' then some '\n'
  else if c = 'r' then some '\r'
  else if c = 't' then some '\t'
  else if c = 'v' then some '\x0b'
  else if c = '0' then some '\x00'
  else if c.isDigit ∨ c = 'x' ∨ c = 'u' then none
  else some c

/-- Reads the rest of a string up to its closing quote; `read` holds the characters so far, last one
first. -/
def stringRest (quote : Char) (read : List Char) : Reader String
  | '\\' :: '\r' :: '\n' :: rest => stringRest quote read rest
  | '\\' :: 'x' :: a :: b :: rest => do stringRest quote ((← codeUnit? [a, b]) :: read) rest
  | '\\' :: 'u' :: a :: b :: c :: d :: rest =>
    match codeUnit? [a, b, c, d], rest with
    | some c, rest => stringRest quote (c :: read) rest
    | none, '\\' :: 'u' :: e :: f :: g :: h :: rest => do
      stringRest quote ((← surrogatePair? [a, b, c, d] [e, f, g, h]) :: read) rest
    | none, _ => none
  | '\\' :: c :: rest =>
    if isLineEnd c then stringRest quote read rest
    else if c = '0' ∧ rest.head?.any Char.isDigit then none
    else do stringRest quote ((← letterEscape? c) :: read) rest
  | c :: rest =>
    if c = quote then some (String.ofList read.reverse, rest)
    else if c = '\\' ∨ c = '\n' ∨ c = '\r' then none
    else stringRest quote (c :: read) rest
  | [] => none

def startsName (c : Char) : Bool :=
  c == '$' || c == '_' || if c ≤ '\x7f' then c.isAlpha else Letter.contains c

def isNameChar (c : Char) : Bool :=
  startsName c || c.isDigit || c == '\u200c' || c == '\u200d' ||
    ('\x80' ≤ c && WordMark.contains c)

/-- A name without quotes with one more character; its characters stand last one first. -/
def withChar? (read : List Char) (c : Char) : Option (List Char) :=
  let fits := if read.isEmpty then startsName c else isNameChar c
  if fits then some (c :: read) else none

/-- Reads the rest of a name without quotes. An escape must stand for a character that may stand
there itself. -/
def nameRest (read : List Char) : Reader String
  | '\\' :: 'u' :: a :: b :: c :: d :: rest =>
    match codeUnit? [a, b, c, d], rest with
    | some c, rest => do nameRest (← withChar? read c) rest
    | none, '\\' :: 'u' :: e :: f :: g :: h :: rest => do
      nameRest (← withChar? read (← surrogatePair? [a, b, c, d] [e, f, g, h])) rest
    | none, _ => none
  | c :: rest =>
    match withChar? read c with
    | some read => nameRest read rest
    | none => if read.isEmpty then none else some (String.ofList read.reverse, c :: rest)
  | [] => if read.isEmpty then none else some (String.ofList read.reverse, [])

def name : Reader String
  | [] => none
  | c :: rest => if c = '"' ∨ c = '\'' then stringRest c [] rest else nameRest [] (c :: rest)

/-! ### Numbers -/

/-- Tells whether the digits of a number without sign are well formed: a leading zero stands
alone, and there is a digit before or after the point and one in the exponent. -/
def isDecimal (cs : List Char) : Bool :=
  let whole := cs.takeWhile Char.isDigit
  (whole.head? != some '0' || whole == ['0']) && (Numeral.unsigned? false cs).isSome

def isNumberChar (c : Char) : Bool := c.isAlphanum || c == '.'

def special? (negative : Bool) (cs : List Char) : Option Double :=
  if cs = "Infinity".toList then some (.infinite negative)
  else if cs = "NaN".toList then some .nan
  else none

/-- An integer, which is a floating-point number if it fits no signed 64-bit word. -/
def ofInteger (value : Int) : Setting :=
  if Numeral.leastInt64 ≤ value ∧ value ≤ Numeral.greatestInt64 then .integer value
  else .double (Numeral.nearest (value < 0) value.natAbs 0)

/-- The decimal number that a word without its sign spells. -/
def decimal? (negative : Bool) (cs : List Char) : Option Setting :=
  if !isDecimal cs then none
  else if cs.all Char.isDigit then
    (Numeral.natural? 10 cs).map fun n => ofInteger (if negative then -n else n)
  else (Numeral.unsigned? negative cs).map .double

/-- The number of hexadecimal digits, which must fit a 128-bit word, signed or unsigned. -/
def hexadecimal? (negative : Bool) (digits : List Char) : Option Setting := do
  let magnitude ← Numeral.natural? 16 digits
  let value : Int := if negative then -magnitude else magnitude
  if -0x80000000000000000000000000000000 ≤ value ∧ value < 0x100000000000000000000000000000000 then
    some (ofInteger value)
  else none

def unsigned? (negative : Bool) (cs : List Char) : Option Setting :=
  match special? negative cs, cs with
  | some double, _ => some (.double double)
  | none, '0' :: x :: digits =>
    if x = 'x' ∨ x = 'X' then hexadecimal? negative digits else decimal? negative cs
  | none, cs => decimal? negative cs

/-- Reads a number. The sign of its exponent belongs to it. -/
def number : Reader Setting := fun cs =>
  let (negative, rest) := match cs with
    | '-' :: rest => (true, rest)
    | '+' :: rest => (false, rest)
    | rest => (false, rest)
  let word := rest.takeWhile isNumberChar
  let after := rest.dropWhile isNumberChar
  let isHexadecimal := word.take 2 == ['0', 'x'] || word.take 2 == ['0', 'X']
  let endsInExponent := word.getLast? == some 'e' || word.getLast? == some 'E'
  match after with
  | c :: more =>
    if (c = '-' ∨ c = '+') ∧ endsInExponent ∧ !isHexadecimal then
      let (digits, rest) := more.span Char.isDigit
      (unsigned? negative (word ++ c :: digits)).map (·, rest)
    else (unsigned? negative word).map (·, after)
  | [] => (unsigned? negative word).map (·, [])

/-! ### Values -/

def member (value : Reader Setting) : Reader (String × Setting) := fun cs => do
  let (name, rest) ← name cs
  match ← skip .blanks rest with
  | ':' :: rest => do
    let (setting, rest) ← value (← skip .blanks rest)
    return ((name, setting), rest)
  | _ => none

/-- The table of members; of those with one name the last counts. -/
def tableOf (members : List (String × Setting)) : Setting :=
  .table (members.foldl (fun table (name, setting) => Entries.insert name setting table) [])

/-- Reads a value whose arrays and objects nest at most `depth` deep. -/
def value (bound : Nat) : Nat → Reader Setting
  | depth, cs =>
    match cs, depth with
    | 'n' :: 'u' :: 'l' :: 'l' :: rest, _ => some (.nothing, rest)
    | 't' :: 'r' :: 'u' :: 'e' :: rest, _ => some (.bool true, rest)
    | 'f' :: 'a' :: 'l' :: 's' :: 'e' :: rest, _ => some (.bool false, rest)
    | '[' :: rest, depth + 1 => do
      let (items, rest) ← separated (skip .blanks) (value bound depth) ']' bound [] rest
      return (.list items, rest)
    | '\x7b' :: rest, depth + 1 => do
      let (members, rest) ←
        separated (skip .blanks) (member (value bound depth)) '\x7d' bound [] rest
      return (tableOf members, rest)
    | c :: rest, _ =>
      if c = '"' ∨ c = '\'' then do
        let (text, rest) ← stringRest c [] rest
        return (.text text, rest)
      else number (c :: rest)
    | [], _ => none

def read? (text : String) : Option Setting := do
  let cs := text.toList
  let bound := cs.length + 1
  let (read, rest) ← value bound bound (← skip .blanks cs)
  if (← skip .blanks rest).isEmpty then some read else none

end SigilLookup.Json5
