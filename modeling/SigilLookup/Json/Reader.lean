import SigilLookup.Decimal.Numeral
import SigilLookup.Json.Basic

/-!
# Reading JSON

`Json.read?` reads one value, with blanks around it, from a text and gives it in canonical form;
`Json.readRaw?` keeps the members of objects as they were written. A text is refused if it does not
follow RFC 8259, if it nests arrays and objects more than 127 deep, if an escape leaves half of a
surrogate pair over, or if a number is too great for a double.

A number without fraction and exponent that fits a 64-bit word stays an integer. Any other is read
as a significand of at most 64 bits and a power of ten: digits that would overflow the significand
are dropped, and the rounded significand is multiplied or divided by the rounded power of ten.

Each reader takes the characters that are left and returns what it read with those left after it.
The list readers take a bound on the number of their items, which the length of the text meets.
-/

namespace SigilLookup.Json

/-- The blanks that may stand between tokens. -/
def isBlank (c : Char) : Bool := c == ' ' || c == '\t' || c == '\n' || c == '\r'

def skipBlanks (cs : List Char) : List Char := cs.dropWhile isBlank

/-! ### Strings -/

def hexQuad? (a b c d : Char) : Option Nat := Numeral.natural? 16 [a, b, c, d]

def letterEscape? (c : Char) : Option Char :=
  if c = '"' then some '"'
  else if c = '\\' then some '\\'
  else if c = '/' then some '/'
  else if c = 'b' then some '\x08'
  else if c = 'f' then some '\x0c'
  else if c = 'n' then some '\n'
  else if c = 'r' then some '\r'
  else if c = 't' then some '\t'
  else none

/-- Reads the rest of a string after its opening quote; `read` holds the characters so far, last
one first. -/
def stringRest (read : List Char) : List Char → Option (String × List Char)
  | [] => none
  | '"' :: rest => some (String.ofList read.reverse, rest)
  | '\\' :: 'u' :: a :: b :: c :: d :: rest => do
    let unit ← hexQuad? a b c d
    if 0xD800 ≤ unit ∧ unit < 0xDC00 then
      match rest with
      | '\\' :: 'u' :: e :: f :: g :: h :: rest => do
        let low ← hexQuad? e f g h
        if 0xDC00 ≤ low ∧ low < 0xE000 then
          stringRest (Char.ofNat (0x10000 + (unit - 0xD800) * 0x400 + (low - 0xDC00)) :: read) rest
        else none
      | _ => none
    else if 0xDC00 ≤ unit ∧ unit < 0xE000 then none
    else stringRest (Char.ofNat unit :: read) rest
  | '\\' :: letter :: rest => do
    let c ← letterEscape? letter
    stringRest (c :: read) rest
  | c :: rest => if c = '\\' ∨ c < ' ' then none else stringRest (c :: read) rest

/-! ### Numbers -/

/-- Adds digits to a significand as long as it fits 64 bits; the number of digits dropped. -/
def gather (significand : Nat) : List Char → Nat × Nat
  | [] => (significand, 0)
  | digit :: rest =>
    let next := significand * 10 + (digit.toNat - '0'.toNat)
    if next < 0x10000000000000000 then gather next rest else (significand, rest.length + 1)

/-- A power of ten as a double; every exponent up to 308 has one. -/
def power? (exponent : Nat) : Option Binary64 := Binary64.ofNat? (Nat.pow 10 exponent)

/-- Scales by a power of ten. Beyond the 308th power it divides by that one until the rest of the
exponent is in reach; a positive exponent out of reach is too great unless the number is zero. -/
def scale? : Nat → Binary64 → Int → Option Binary64
  | steps, x, exponent =>
    if exponent.natAbs ≤ 308 then do
      let power ← power? exponent.natAbs
      if 0 ≤ exponent then x.mul? power else x.div? power
    else if x.isZero then some x
    else if 0 ≤ exponent then none
    else
      match steps with
      | 0 => none
      | steps + 1 => do
        let power ← power? 308
        let x ← x.div? power
        scale? steps x (exponent + 308)

def scaled? (negative : Bool) (significand : Nat) (exponent : Int) : Option Number := do
  let x ← Binary64.ofNat? significand
  let x ← scale? (exponent.natAbs / 308) x exponent
  return .float (x.withSign negative)

def numberOf? (negative : Bool) (whole fraction : List Char) (exponent : Option Int) :
    Option Number :=
  let (significand, dropped) := gather 0 whole
  if fraction.isEmpty ∧ exponent.isNone ∧ dropped = 0 then
    if negative then
      if significand = 0 ∨ 0x8000000000000000 < significand then
        (Binary64.ofNat? significand).map fun x => .float (x.withSign true)
      else Number.ofInt? (-significand)
    else Number.ofInt? significand
  else
    let (significand, unread) := gather significand fraction
    scaled? negative significand
      (exponent.getD 0 + dropped - (fraction.length - unread : Nat))

/-- Reads the exponent of a number, if there is one: the exponent and what is left. -/
def exponentPart : List Char → Option (Option Int × List Char)
  | e :: rest =>
    if e = 'e' ∨ e = 'E' then
      let (negative, rest) := match rest with
        | '-' :: rest => (true, rest)
        | '+' :: rest => (false, rest)
        | rest => (false, rest)
      let digits := rest.takeWhile Char.isDigit
      if digits.isEmpty then none
      else
        let magnitude : Int := Numeral.ofDigits digits
        some (some (if negative then -magnitude else magnitude), rest.dropWhile Char.isDigit)
    else some (none, e :: rest)
  | [] => some (none, [])

/-- Reads the fraction of a number, if there is one: its digits and what is left. -/
def fractionPart : List Char → Option (List Char × List Char)
  | '.' :: rest =>
    let digits := rest.takeWhile Char.isDigit
    if digits.isEmpty then none else some (digits, rest.dropWhile Char.isDigit)
  | rest => some ([], rest)

/-- Reads a number after its sign. A leading zero stands alone. -/
def unsignedNumber (negative : Bool) (cs : List Char) : Option (Number × List Char) := do
  let whole := cs.takeWhile Char.isDigit
  if whole.isEmpty ∨ (whole.head? = some '0' ∧ whole ≠ ['0']) then none
  else
    let (fraction, rest) ← fractionPart (cs.dropWhile Char.isDigit)
    let (exponent, rest) ← exponentPart rest
    let value ← numberOf? negative whole fraction exponent
    return (value, rest)

def number : List Char → Option (Number × List Char)
  | '-' :: rest => unsignedNumber true rest
  | cs => unsignedNumber false cs

/-! ### Values -/

/-- Reads the items of an array after its opening bracket and up to its closing one, at least one;
`read` holds the items so far, last one first. -/
def items (item : List Char → Option (Json × List Char)) :
    Nat → List Json → List Char → Option (List Json × List Char)
  | 0, _, _ => none
  | bound + 1, read, cs => do
    let (value, rest) ← item cs
    match skipBlanks rest with
    | ',' :: rest => items item bound (value :: read) rest
    | ']' :: rest => some ((value :: read).reverse, rest)
    | _ => none

/-- Reads the members of an object after its opening brace and up to its closing one, at least
one; `read` holds the members so far, last one first. -/
def members (item : List Char → Option (Json × List Char)) :
    Nat → List (String × Json) → List Char → Option (List (String × Json) × List Char)
  | 0, _, _ => none
  | bound + 1, read, cs => do
    let rest ← match skipBlanks cs with
      | '"' :: rest => some rest
      | _ => none
    let (name, rest) ← stringRest [] rest
    let rest ← match skipBlanks rest with
      | ':' :: rest => some rest
      | _ => none
    let (value, rest) ← item rest
    match skipBlanks rest with
    | ',' :: rest => members item bound ((name, value) :: read) rest
    | '\x7d' :: rest => some (((name, value) :: read).reverse, rest)
    | _ => none

/-- Reads a value whose arrays and objects nest at most `depth` deep. -/
def value (bound : Nat) : Nat → List Char → Option (Json × List Char)
  | depth, cs =>
    match skipBlanks cs with
    | 'n' :: 'u' :: 'l' :: 'l' :: rest => some (.null, rest)
    | 't' :: 'r' :: 'u' :: 'e' :: rest => some (.bool true, rest)
    | 'f' :: 'a' :: 'l' :: 's' :: 'e' :: rest => some (.bool false, rest)
    | '"' :: rest => do
      let (text, rest) ← stringRest [] rest
      return (.str text, rest)
    | '[' :: rest =>
      match depth with
      | 0 => none
      | depth + 1 =>
        match skipBlanks rest with
        | ']' :: rest => some (.arr [], rest)
        | rest => do
          let (read, rest) ← items (value bound depth) bound [] rest
          return (.arr read, rest)
    | '\x7b' :: rest =>
      match depth with
      | 0 => none
      | depth + 1 =>
        match skipBlanks rest with
        | '\x7d' :: rest => some (.obj [], rest)
        | rest => do
          let (read, rest) ← members (value bound depth) bound [] rest
          return (.obj read, rest)
    | cs => do
      let (read, rest) ← number cs
      return (.num read, rest)

def maxDepth : Nat := 127

/-- Reads a text, the members of objects as they were written. -/
def readRaw? (text : String) : Option Json := do
  let cs := text.toList
  let (read, rest) ← value cs.length maxDepth cs
  if (skipBlanks rest).isEmpty then some read else none

def read? (text : String) : Option Json := (readRaw? text).map canonical

end SigilLookup.Json
