import SigilLookup.Decimal.Numeral
import SigilLookup.Json.Writer
import SigilLookup.Text.Utf8

/-!
# Values

What a key resolves to: structured data, or the raw content of a file.
-/

namespace SigilLookup

inductive Value where
  | json (payload : Json)
  | bytes (content : List UInt8)
deriving Inhabited

namespace Value

def string (text : String) : Value := .json (.str text)

/-- The null value, which is also the default one. -/
def null : Value := .json .null

/-- A number value; infinities and not-a-number become null. -/
def double : Double → Value
  | .finite value => .json (.num (.float value))
  | _ => null

def asString? : Value → Option String
  | .json (.str text) => some text
  | _ => none

def asBytes? : Value → Option (List UInt8)
  | .bytes content => some content
  | .json _ => none

def asJson? : Value → Option Json
  | .json payload => some payload
  | .bytes _ => none

def isBytes (value : Value) : Bool := value.asBytes?.isSome

def isNull : Value → Bool
  | .json .null => true
  | _ => false

/-- The text a reader sees: a string as it is, other data as JSON, bytes read as UTF-8 with U+FFFD
where they are ill formed. -/
def display : Value → String
  | .json (.str text) => text
  | .json payload => payload.compact
  | .bytes content => Utf8.decodeLossy content

def byteArray (content : List UInt8) : Json :=
  .arr (content.map fun byte => .num (.ofUInt8 byte))

/-- The value as data: its payload, or its bytes as an array of numbers. -/
def toJson : Value → Json
  | .json payload => payload
  | .bytes content => byteArray content

def serialized (value : Value) : String := value.toJson.compact

def dump : Value → Dump
  | .json payload => .wrapped "Json" payload.dump
  | .bytes content => .wrapped "Bytes" (.list (content.map fun byte => .atom (toString byte)))

/-- Equality of values; structured data never equals the content of a file. -/
def same : Value → Value → Bool
  | .json x, .json y => x.same y
  | .bytes x, .bytes y => x == y
  | _, _ => false

def isString (value : Value) (text : String) : Bool := value.asString? == some text

end Value

end SigilLookup
