import SigilLookup.Settings.Setting
import SigilLookup.Text.Identifier
import SigilLookup.Text.Split
import SigilLookup.Text.Utf8

/-!
# Names and literals in RON

The words that values are made of: names, texts and octets between quotes, single characters, and
numbers. In a text, escapes may give the octets of a character's UTF-8 one by one. A reader gives
nothing if no such word starts where it begins.
-/

namespace SigilLookup.Ron

open Reading

/-! ### Names -/

def startsName (c : Char) : Bool := c == '_' || Identifier.isStart c

/-- The characters that names go on with after the mark for raw names. -/
def isRawChar (c : Char) : Bool := Identifier.isPart c || c == '.' || c == '+' || c == '-'

def rawMark : List Char := ['r', '#']

/-- What literals start with that could else be names. -/
def literalMarks : List String := ["b\"", "b'", "br#", "br\"", "r\"", "r#\"", "r##"]

/-- Tells whether a literal starts here that could else be a name. -/
def startsLiteral (cs : List Char) : Bool :=
  literalMarks.any fun mark => mark.toList.isPrefixOf cs

def name : Reader String := fun cs =>
  if startsLiteral cs then none
  else if rawMark.isPrefixOf cs then
    let cs := cs.drop 2
    let word := cs.takeWhile isRawChar
    if word.isEmpty then none else some (String.ofList word, cs.dropWhile isRawChar)
  else if cs.head?.any startsName then
    some (String.ofList (cs.takeWhile Identifier.isPart), cs.dropWhile Identifier.isPart)
  else none

/-- Reads the name of a field. It must not be part of a longer raw name that lacks its mark. -/
def fieldName : Reader String := fun cs => do
  let (word, rest) ← name cs
  if rest.head?.any isRawChar then none else some (word, rest)

/-- The first of some words that stands here whole, and what follows it. -/
def word? (words : List String) (cs : List Char) : Option (String × List Char) := do
  let word ← words.find? fun word =>
    word.toList.isPrefixOf cs && !(cs.drop word.length).head?.any Identifier.isPart
  return (word, cs.drop word.length)

/-! ### Texts, characters and octets -/

def letterEscape? (c : Char) : Option Char :=
  if c = 'n' then some '\n'
  else if c = 'r' then some '\r'
  else if c = 't' then some '\t'
  else if c = '0' then some '\x00'
  else if c = '\\' ∨ c = '"' ∨ c = '\'' then some c
  else none

def octet : Reader UInt8
  | a :: b :: rest => (Numeral.natural? 16 [a, b]).map fun code => (code.toUInt8, rest)
  | _ => none

def codePoint : Reader Char
  | '\x7b' :: rest => do
    let digits := rest.takeWhile (· != '\x7d')
    let code ← Numeral.natural? 16 digits
    if 6 < digits.length then none
    else if code < 0xD800 ∨ (0xE000 ≤ code ∧ code < 0x110000) then
      some (Char.ofNat code, rest.drop (digits.length + 1))
    else none
  | _ => none

/-- What a backslash at the end of a line drops from the next ones. -/
def isDropped (c : Char) : Bool := c == ' ' || c == '\t' || c == '\n' || c == '\r'

/-- Passes over the start of the next line after a backslash at the end of a line. -/
def joinedLine? : List Char → Option (List Char)
  | '\n' :: rest => some (rest.dropWhile isDropped)
  | '\r' :: '\n' :: rest => some (rest.dropWhile isDropped)
  | _ => none

/-- Reads an escape in octets after its backslash. At the end of a line it stands for none. -/
def escapedOctets : Reader (List UInt8)
  | 'x' :: rest => (octet rest).map fun (byte, rest) => ([byte], rest)
  | 'u' :: rest => (codePoint rest).map fun (c, rest) => (String.utf8EncodeChar c, rest)
  | cs =>
    match joinedLine? cs, cs with
    | some rest, _ => some ([], rest)
    | none, c :: rest => (letterEscape? c).map fun c => (String.utf8EncodeChar c, rest)
    | none, [] => none

/-- Reads further octets of a character, each after a mark of its own, until they are whole. The
bound is on their number. -/
def encodedRest : Nat → List UInt8 → Reader (List Char)
  | bound + 1, octets, '\\' :: 'x' :: rest => do
    let (byte, rest) ← octet rest
    let octets := octets ++ [byte]
    match Utf8.decode? octets with
    | some text => some (text.toList, rest)
    | none => encodedRest bound octets rest
  | _, _, _ => none

/-- Reads an escape in a text after its backslash. At the end of a line it stands for nothing. -/
def escapedText : Reader (List Char)
  | 'x' :: rest => do
    let (byte, rest) ← octet rest
    if byte < 0x80 then some ([Char.ofNat byte.toNat], rest) else encodedRest 3 [byte] rest
  | 'u' :: rest => (codePoint rest).map fun (c, rest) => ([c], rest)
  | cs =>
    match joinedLine? cs, cs with
    | some rest, _ => some ([], rest)
    | none, c :: rest => (letterEscape? c).map fun c => ([c], rest)
    | none, [] => none

/-- Reads the rest of what stands between double quotes; `read` holds what came so far, last part
first. The bound is on the number of characters. -/
def quotedRest (escape : Reader (List α)) (plain : Char → List α) :
    Nat → List α → Reader (List α)
  | _, read, '"' :: rest => some (read.reverse, rest)
  | bound + 1, read, '\\' :: rest => do
    let (part, rest) ← escape rest
    quotedRest escape plain bound (part.reverse ++ read) rest
  | bound + 1, read, c :: rest => quotedRest escape plain bound ((plain c).reverse ++ read) rest
  | _, _, _ => none

/-- Reads the rest of a raw literal up to a quote with the given marks after it. -/
def rawRest (marks : List Char) (read : List Char) : Reader String
  | c :: rest =>
    if c = '"' ∧ marks.isPrefixOf rest then
      some (String.ofList read.reverse, rest.drop marks.length)
    else rawRest marks (c :: read) rest
  | [] => none

def raw : Reader String := fun cs =>
  match cs.dropWhile (· == '#') with
  | '"' :: rest => rawRest (cs.takeWhile (· == '#')) [] rest
  | _ => none

def text : Reader String
  | '"' :: rest => do
    let (read, rest) ← quotedRest escapedText (fun c => [c]) rest.length [] rest
    return (String.ofList read, rest)
  | 'r' :: rest => raw rest
  | _ => none

def octets : Reader (List UInt8)
  | 'b' :: '"' :: rest => quotedRest escapedOctets String.utf8EncodeChar rest.length [] rest
  | 'b' :: 'r' :: rest => (raw rest).map fun (text, rest) => (Utf8.encode text, rest)
  | _ => none

/-- Reads an escape between single quotes after its backslash. -/
def escapedCharacter : Reader Char
  | 'x' :: rest => do
    let (byte, rest) ← octet rest
    if byte < 0x80 then some (Char.ofNat byte.toNat, rest) else none
  | 'u' :: rest => codePoint rest
  | c :: rest => (letterEscape? c).map (·, rest)
  | [] => none

def closed : Option (α × List Char) → Option (α × List Char)
  | some (value, '\'' :: rest) => some (value, rest)
  | _ => none

def character : Reader Char
  | '\'' :: '\\' :: rest => closed (escapedCharacter rest)
  | '\'' :: c :: rest => closed (some (c, rest))
  | _ => none

def singleOctet : Reader Nat
  | 'b' :: '\'' :: '\\' :: 'x' :: rest =>
    closed ((octet rest).map fun (byte, rest) => (byte.toNat, rest))
  | 'b' :: '\'' :: '\\' :: c :: rest => closed ((letterEscape? c).map fun c => (c.toNat, rest))
  | 'b' :: '\'' :: c :: rest => if c ≤ '\x7f' then closed (some (c.toNat, rest)) else none
  | _ => none

/-! ### Numbers -/

/-- The words for infinity and not-a-number, with the types that may stand at their ends. -/
def specialWords : List String := ["inf", "inff32", "inff64", "NaN", "NaNf32", "NaNf64"]

def splitSign : List Char → Bool × List Char
  | '-' :: rest => (true, rest)
  | '+' :: rest => (false, rest)
  | rest => (false, rest)

def special : Reader Double := fun cs =>
  let (negative, rest) := splitSign cs
  (word? specialWords rest).map fun (word, rest) =>
    (if word.toList.head? = some 'i' then .infinite negative else .nan, rest)

def splitBase : List Char → Nat × List Char
  | '0' :: 'x' :: digits => (16, digits)
  | '0' :: 'o' :: digits => (8, digits)
  | '0' :: 'b' :: digits => (2, digits)
  | digits => (10, digits)

def integerTypes : List String := ["i8", "i16", "i32", "i64", "u8", "u16", "u32", "u64"]

/-- The bounds of a type of integers, or of 64-bit words of either kind. -/
def boundsOf (type : String) : Int × Int :=
  match type.toList with
  | sign :: bits =>
    let half : Nat := 1 <<< (Numeral.ofDigits bits - 1)
    if sign = 'i' then (-half, half - 1) else (0, 2 * half - 1)
  | [] => (Numeral.leastInt64, 2 * Numeral.greatestInt64 + 1)

def isIntegerChar (c : Char) : Bool :=
  c.isDigit || ('a' ≤ c && c ≤ 'f') || ('A' ≤ c && c ≤ 'F') || c == '_'

/-- Reads an integer that fits the type at its end, or a 64-bit word. Decimal and binary digits may
have a type after them. -/
def integer : Reader Int := fun cs => do
  let (negative, rest) := splitSign cs
  let (base, rest) := splitBase rest
  let digits := rest.takeWhile isIntegerChar
  if digits.head? = some '_' then none
  else
    let magnitude ← Numeral.natural? base (digits.filter (· != '_'))
    let value : Int := if negative then -magnitude else magnitude
    let rest := rest.drop digits.length
    let typed := if base = 10 ∨ base = 2 then word? integerTypes rest else none
    let (type, rest) := typed.getD ("", rest)
    let (least, greatest) := boundsOf type
    if least ≤ value ∧ value ≤ greatest then some (value, rest) else none

def isDoubleChar (c : Char) : Bool :=
  c.isDigit || c == 'e' || c == 'E' || c == '.' || c == '+' || c == '-' || c == '_'

/-- A floating-point number without its underscores. An underscore may stand after a digit or the
letter of an exponent, and after a sign that follows one, but not after the point. -/
def withoutUnderscores? (allowed : Bool) : List Char → Option (List Char)
  | [] => some []
  | c :: rest =>
    if c = '_' then if allowed then withoutUnderscores? allowed rest else none
    else
      let allowed := c.isDigit || c == 'e' || c == 'E' || (allowed && c != '.')
      (withoutUnderscores? allowed rest).map (c :: ·)

/-- Reads a floating-point number in digits. A number of single precision is rounded to it. -/
def double : Reader Double := fun cs => do
  let written := cs.takeWhile isDoubleChar
  let rest := cs.drop written.length
  let (negative, digits) := splitSign (← withoutUnderscores? false written)
  match word? ["f32", "f64"] rest with
  | some ("f32", rest) => return (← Numeral.single? negative digits, rest)
  | some (_, rest) => return (← Numeral.unsigned? negative digits, rest)
  | none => return (← Numeral.unsigned? negative digits, rest)

/-- Tells whether a number is written with a fraction, or an exponent with a sign. -/
def isWrittenAsDouble (cs : List Char) : Bool :=
  let (_, rest) := splitSign cs
  (rest.takeWhile isIntegerChar).length < (rest.takeWhile isDoubleChar).length

def beforeRange : List Char → List Char
  | '.' :: '.' :: _ => []
  | c :: rest => c :: beforeRange rest
  | [] => []

/-- Reads a number. An integer that fits no word is a floating-point number. -/
def number : Reader Setting := fun cs =>
  match special cs, singleOctet cs with
  | some (value, rest), _ => some (.double value, rest)
  | none, some (value, rest) => some (.integer value, rest)
  | none, none =>
    let word := beforeRange (cs.takeWhile fun c => isDoubleChar c || c.isAlphanum)
    let after := cs.drop word.length
    match (if isWrittenAsDouble word then none else integer word), double word with
    | some (value, rest), _ => some (.integer value, rest ++ after)
    | none, some (value, rest) => some (.double value, rest ++ after)
    | none, none => none

def startsNumber (cs : List Char) : Bool :=
  cs.head?.any (fun c => c.isDigit || c == '+' || c == '-' || c == '.') ||
    (special cs).isSome || (singleOctet cs).isSome

def endpoint (name : String) (value : Setting) : String × Setting := (name, value)

/-- Reads the rest of a range after its points. One end of a range may be missing. -/
def rangeRest (start : Option Setting) : Reader Setting := fun cs =>
  let cs := if cs.head? = some '=' then cs.drop 1 else cs
  let entries := (start.map (endpoint "start")).toList
  if startsNumber cs then
    (number cs).map fun (value, rest) => (.table (entries ++ [endpoint "end" value]), rest)
  else if entries.isEmpty then none
  else some (.table entries, cs)

def numeric : Reader Setting := fun cs =>
  match cs with
  | '.' :: '.' :: rest => rangeRest none rest
  | cs =>
    match number cs with
    | some (value, '.' :: '.' :: rest) => rangeRest (some value) rest
    | read => read

end SigilLookup.Ron
