import SigilLookup.Settings.Setting
import SigilLookup.Settings.Toml.DateTime
import SigilLookup.Text.Split

/-!
# Scalars in TOML

Strings in four kinds of quotes, numbers, truth values, and dates and times.

Basic strings are read with escapes and literal strings without. Three quotes open a string that
may run over several lines: a line break right after them is dropped, and a backslash at the end
of a line drops the blanks and line breaks that follow. One or two quotes may stand right before
the closing ones.
-/

namespace SigilLookup.Toml

open Reading

def isBlank (c : Char) : Bool := c == ' ' || c == '\t'

/-- The characters that may stand for themselves within a line of text. -/
def isPlain (c : Char) : Bool := c == '\t' || (' ' ≤ c && c != '\x7f')

def startsBreak : List Char → Bool
  | '\n' :: _ => true
  | '\r' :: '\n' :: _ => true
  | _ => false

def dropBreak : List Char → List Char
  | '\n' :: rest => rest
  | '\r' :: '\n' :: rest => rest
  | rest => rest

/-! ### Strings -/

def codePoint? (digits : List Char) : Option Char := do
  let code ← Numeral.natural? 16 digits
  if code < 0xD800 ∨ (0xE000 ≤ code ∧ code < 0x110000) then some (Char.ofNat code) else none

def letterEscape? (c : Char) : Option Char :=
  if c = 'b' then some '\x08'
  else if c = 't' then some '\t'
  else if c = 'n' then some '\n'
  else if c = 'f' then some '\x0c'
  else if c = 'r' then some '\r'
  else if c = 'e' then some '\x1b'
  else if c = '"' then some '"'
  else if c = '\\' then some '\\'
  else none

/-- Reads the rest of a basic string; `read` holds the characters so far, last one first. -/
def basicRest (read : List Char) : Reader String
  | '"' :: rest => some (String.ofList read.reverse, rest)
  | '\\' :: 'x' :: a :: b :: rest => do basicRest ((← codePoint? [a, b]) :: read) rest
  | '\\' :: 'u' :: a :: b :: c :: d :: rest => do
    basicRest ((← codePoint? [a, b, c, d]) :: read) rest
  | '\\' :: 'U' :: a :: b :: c :: d :: e :: f :: g :: h :: rest => do
    basicRest ((← codePoint? [a, b, c, d, e, f, g, h]) :: read) rest
  | '\\' :: c :: rest => do basicRest ((← letterEscape? c) :: read) rest
  | c :: rest => if isPlain c ∧ c ≠ '\\' then basicRest (c :: read) rest else none
  | [] => none

/-- Reads the rest of a basic string of several lines. While `dropping`, blanks and line breaks are
dropped. -/
def linesRest (dropping : Bool) (read : List Char) : Reader String
  | '"' :: '"' :: '"' :: '"' :: '"' :: rest =>
    some (String.ofList ('"' :: '"' :: read).reverse, rest)
  | '"' :: '"' :: '"' :: '"' :: rest => some (String.ofList ('"' :: read).reverse, rest)
  | '"' :: '"' :: '"' :: rest => some (String.ofList read.reverse, rest)
  | '\\' :: 'x' :: a :: b :: rest => do linesRest false ((← codePoint? [a, b]) :: read) rest
  | '\\' :: 'u' :: a :: b :: c :: d :: rest => do
    linesRest false ((← codePoint? [a, b, c, d]) :: read) rest
  | '\\' :: 'U' :: a :: b :: c :: d :: e :: f :: g :: h :: rest => do
    linesRest false ((← codePoint? [a, b, c, d, e, f, g, h]) :: read) rest
  | '\\' :: c :: rest =>
    if startsBreak ((c :: rest).dropWhile isBlank) then linesRest true read rest
    else do linesRest false ((← letterEscape? c) :: read) rest
  | c :: rest =>
    if startsBreak (c :: rest) ∨ (dropping ∧ isBlank c) then
      linesRest dropping (if dropping then read else c :: read) rest
    else if isPlain c ∧ c ≠ '\\' then linesRest false (c :: read) rest
    else none
  | [] => none

def literalRest (read : List Char) : Reader String
  | '\'' :: rest => some (String.ofList read.reverse, rest)
  | c :: rest => if isPlain c then literalRest (c :: read) rest else none
  | [] => none

def literalLinesRest (read : List Char) : Reader String
  | '\'' :: '\'' :: '\'' :: '\'' :: '\'' :: rest =>
    some (String.ofList ('\'' :: '\'' :: read).reverse, rest)
  | '\'' :: '\'' :: '\'' :: '\'' :: rest => some (String.ofList ('\'' :: read).reverse, rest)
  | '\'' :: '\'' :: '\'' :: rest => some (String.ofList read.reverse, rest)
  | c :: rest =>
    if isPlain c ∨ startsBreak (c :: rest) then literalLinesRest (c :: read) rest else none
  | [] => none

def string? : Reader String
  | '"' :: '"' :: '"' :: rest => linesRest false [] (dropBreak rest)
  | '"' :: rest => basicRest [] rest
  | '\'' :: '\'' :: '\'' :: rest => literalLinesRest [] (dropBreak rest)
  | '\'' :: rest => literalRest [] rest
  | _ => none

/-! ### Numbers and words -/

/-- Digits in groups with an underscore between two groups, without the underscores. -/
def grouped? (isDigit : Char → Bool) (cs : List Char) : Option (List Char) :=
  let groups := splitOn '_' cs
  if groups.all fun group => !group.isEmpty && group.all isDigit then some groups.flatten else none

def isDigitOf (base : Nat) (c : Char) : Bool := (Numeral.digitValue? c).any (· < base)

def splitSign : List Char → List Char × List Char
  | '-' :: rest => (['-'], rest)
  | '+' :: rest => ([], rest)
  | rest => ([], rest)

/-- Decimal digits without a zero in front. -/
def whole? (cs : List Char) : Option (List Char) := do
  let digits ← grouped? Char.isDigit cs
  if digits.head? = some '0' ∧ digits ≠ ['0'] then none else some digits

/-- An unsigned integer in a base, of at most 63 bits. -/
def based? (base : Nat) (cs : List Char) : Option Int := do
  let digits ← grouped? (isDigitOf base) cs
  Numeral.integer? base 0 Numeral.greatestInt64 digits

def integer? : List Char → Option Int
  | '0' :: 'x' :: digits => based? 16 digits
  | '0' :: 'o' :: digits => based? 8 digits
  | '0' :: 'b' :: digits => based? 2 digits
  | cs => do
    let (sign, rest) := splitSign cs
    Numeral.int64? (sign ++ (← whole? rest))

/-- The exponent of a number and the letter before it. -/
def exponentText? : List Char → Option (List Char)
  | [] => some []
  | _ :: rest => do
    let (sign, digits) := splitSign rest
    return 'e' :: sign ++ (← grouped? Char.isDigit digits)

/-- The fraction of a number and the point before it. -/
def fractionText? : List Char → Option (List Char)
  | [] => some []
  | _ :: digits => do return '.' :: (← grouped? Char.isDigit digits)

/-- The floating-point number that a word spells: it has a fraction or an exponent, and is not too
great to be finite. -/
def double? (cs : List Char) : Option Double := do
  let (sign, rest) := splitSign cs
  if rest = "inf".toList then some (.infinite (sign = ['-']))
  else if rest = "nan".toList then some .nan
  else
    let isExponent (c : Char) : Bool := c == 'e' || c == 'E'
    let decimal := rest.takeWhile fun c => !isExponent c
    let exponent ← exponentText? (rest.dropWhile fun c => !isExponent c)
    let whole ← whole? (decimal.takeWhile (· != '.'))
    let fraction ← fractionText? (decimal.dropWhile (· != '.'))
    if fraction.isEmpty ∧ exponent.isEmpty then none
    else
      match Numeral.double? (sign ++ whole ++ fraction ++ exponent) with
      | some (.finite value) => some (.finite value)
      | _ => none

def isWordChar (c : Char) : Bool :=
  c.isAlphanum || c == '_' || c == '-' || c == '+' || c == '.' || c == ':'

def word? (cs : List Char) : Option Setting :=
  if cs = "true".toList then some (.bool true)
  else if cs = "false".toList then some (.bool false)
  else
    match integer? cs, double? cs with
    | some value, _ => some (.integer value)
    | none, some value => some (.double value)
    | none, none => (dateTimeText? cs).map fun text => .text (String.ofList text)

/-- Reads a word. A blank between a date and a time is part of it. -/
def word : Reader Setting := fun cs =>
  let first := cs.takeWhile isWordChar
  let rest := cs.dropWhile isWordChar
  match rest with
  | ' ' :: digit :: more =>
    if isDate first ∧ digit.isDigit then do
      let time := (digit :: more).takeWhile isWordChar
      return (← word? (first ++ ' ' :: time), (digit :: more).dropWhile isWordChar)
    else (word? first).map (·, rest)
  | rest => (word? first).map (·, rest)

end SigilLookup.Toml
