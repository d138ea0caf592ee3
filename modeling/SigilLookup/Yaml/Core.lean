import SigilLookup.Json.Basic
import SigilLookup.Yaml.Document

/-!
# The core schema

What the scalars of a YAML document become as JSON. A plain scalar is null, a truth value, an
integer or a floating-point number if it is spelled like one, and a string otherwise; a quoted
scalar is a string. One of the tags for these kinds asks for that kind whatever the style, and the
scalar must then be spelled like it. Other tags of the YAML namespace make a string, and local
tags are refused, an exclamation mark alone among them.

Integers have an optional sign and are decimal without leading zeros, or have one of the prefixes
`0x`, `0o` and `0b`. An integer that fits no 64-bit word is refused if it fits a 128-bit word, and
is a floating-point number beyond that. The key of a mapping is the text of a scalar, whatever it
is spelled like.
-/

namespace SigilLookup.Yaml.Core

def isNull (text : String) : Bool := ["null", "Null", "NULL", "~"].contains text

def bool? (text : String) : Option Bool :=
  if ["true", "True", "TRUE"].contains text then some true
  else if ["false", "False", "FALSE"].contains text then some false
  else none

def unsigned : List Char → List Char
  | '-' :: rest => rest
  | '+' :: rest => rest
  | cs => cs

def hasSign : List Char → Bool
  | '-' :: _ => true
  | '+' :: _ => true
  | _ => false

/-- Tells whether a text consists of digits with a leading zero, which makes it a string. -/
def hasLeadingZero (cs : List Char) : Bool :=
  match unsigned cs with
  | '0' :: c :: rest => (c :: rest).all Char.isDigit
  | _ => false

def based? : List Char → Option (Nat × List Char)
  | '0' :: 'x' :: digits => some (16, digits)
  | '0' :: 'o' :: digits => some (8, digits)
  | '0' :: 'b' :: digits => some (2, digits)
  | _ => none

/-- The natural number that a text without sign spells; `whole` is the text with its sign. -/
def natural? (whole cs : List Char) : Option Nat :=
  match based? cs with
  | some (base, digits) => Numeral.natural? base digits
  | none => if hasLeadingZero whole then none else Numeral.natural? 10 cs

def integer? (cs : List Char) : Option Int :=
  match cs with
  | '-' :: rest => (natural? cs rest).map fun n => -(n : Int)
  | '+' :: rest => (natural? cs rest).map Int.ofNat
  | _ => (natural? cs cs).map Int.ofNat

/-- Tells whether an integer fits a word of 128 bits, signed or unsigned. -/
def fitsWord (value : Int) : Bool :=
  -0x80000000000000000000000000000000 ≤ value && value < 0x100000000000000000000000000000000

/-- The floating-point number that a text spells: one of the words for infinity and not-a-number, or
a decimal within the range of doubles. -/
def double? (text : String) : Option Double :=
  if [".inf", ".Inf", ".INF", "+.inf", "+.Inf", "+.INF"].contains text then some (.infinite false)
  else if ["-.inf", "-.Inf", "-.INF"].contains text then some (.infinite true)
  else if [".nan", ".NaN", ".NAN"].contains text then some .nan
  else
    let decimal := match text.toList with
      | '+' :: rest => if hasSign rest then none else Numeral.double? rest
      | cs => Numeral.double? cs
    match decimal with
    | some (.finite value) => some (.finite value)
    | _ => none

/-- A floating-point number as JSON; infinities and not-a-number become null. -/
def ofDouble : Double → Json
  | .finite value => .num (.float value)
  | _ => .null

def ofInteger? (value : Int) : Option Json := (Number.ofInt? value).map .num

/-- What a plain scalar without tag becomes. -/
def plain? (text : String) : Option Json :=
  let cs := text.toList
  if text = "" ∨ isNull text then some .null
  else
    match bool? text, integer? cs with
    | some value, _ => some (.bool value)
    | none, some value =>
      if fitsWord value then ofInteger? value
      else if hasLeadingZero cs then some (.str text)
      else some ((double? text).elim (.str text) ofDouble)
    | none, none =>
      if hasLeadingZero cs then some (.str text)
      else some ((double? text).elim (.str text) ofDouble)

/-- The namespace of the tags that every document knows. -/
def namespaceTag (name : String) : String := "tag:yaml.org,2002:" ++ name

/-- Tells whether a tag is a local one. None is that has octets which encode no character, and
U+FFFD in their place. -/
def isLocal (tag : Option Tag) : Bool :=
  tag.any fun tag =>
    let cs := tag.text.toList
    cs.head? == some '!' && !cs.contains '\ufffd'

def scalar? (tag : Option Tag) (text : String) (plain : Bool) : Option Json :=
  match tag with
  | none => if plain then plain? text else some (.str text)
  | some name =>
    let name := name.text
    if isLocal tag then none
    else if name = namespaceTag "bool" then (bool? text).map .bool
    else if name = namespaceTag "int" then
      (integer? text.toList).bind fun value => if fitsWord value then ofInteger? value else none
    else if name = namespaceTag "float" then (double? text).map ofDouble
    else if name = namespaceTag "null" then if isNull text then some .null else none
    else some (.str text)

/-- The schema: objects list their members in order of names, the last of each name winning. -/
def schema : Schema Json where
  void := .null
  scalar := scalar?
  key := fun _ text _ => some text
  sequence := fun tag items => if isLocal tag then none else some (.arr items)
  mapping := fun tag entries => if isLocal tag then none else some (Json.object entries)

def read? (text : String) : Option Json := (Document.read? text).bind (·.interpret schema)

end SigilLookup.Yaml.Core
