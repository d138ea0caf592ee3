import SigilLookup.Json.Reader
import SigilLookup.Path
import SigilLookup.Yaml.Core

/-!
# Documents

The formats of constants documents. The extension of a file tells its format, in any case of
letters.
-/

namespace SigilLookup

inductive DocumentFormat where
  | json
  | yaml
deriving DecidableEq

namespace DocumentFormat

/-- An ASCII letter in lower case. -/
def lowerByte (byte : UInt8) : UInt8 := if 0x41 ≤ byte ∧ byte ≤ 0x5A then byte + 0x20 else byte

def ofExtension? (extension : List UInt8) : Option DocumentFormat :=
  let lower := extension.map lowerByte
  if lower = Utf8.encode "json" then some .json
  else if lower = Utf8.encode "yaml" ∨ lower = Utf8.encode "yml" then some .yaml
  else none

def ofPath? (path : Path) : Option DocumentFormat := path.extension?.bind ofExtension?

def read? : DocumentFormat → String → Option Json
  | .json, text => Json.read? text
  | .yaml, text => Yaml.Core.read? text

/-- What the message of a failed reading starts with; the reader's own reason may follow. -/
def failure : DocumentFormat → String
  | .json => "JSON deserialization failed: "
  | .yaml => "YAML deserialization failed: "

end DocumentFormat

end SigilLookup
