import SigilLookup.Text.Dump

/-!
# Keys

A key names a value. Its first characters, the sigil, select the store that is asked, and what
follows them is the name looked up there; a key without a sigil is its own value. The longest sigil
wins, so `!!` is never read as `!` followed by a name.

Under the lenient grammar every text is a key. The strict grammar refuses a key whose name starts
with a sigil character again.
-/

namespace SigilLookup

/-- The two families of provider that lookups are routed to. -/
inductive ProviderKind where
  | computed
  | constants
deriving DecidableEq

def ProviderKind.label : ProviderKind → String
  | .computed => "computed"
  | .constants => "constants"

/-- The store that a key's sigil selects. -/
inductive Kind where
  | runtime
  | computed
  | constant
  | fileConstant
  /-- No store: the key is its own value. -/
  | literal
deriving DecidableEq

namespace Kind

def sigil : Kind → List Char
  | .runtime => ['$']
  | .computed => ['#']
  | .constant => ['!']
  | .fileConstant => ['!', '!']
  | .literal => []

def label : Kind → String
  | .runtime => "runtime"
  | .computed => "computed"
  | .constant => "constant"
  | .fileConstant => "file-constant"
  | .literal => "literal"

/-- The family of provider that lookups of this kind need. -/
def provider? : Kind → Option ProviderKind
  | .computed => some .computed
  | .constant => some .constants
  | .fileConstant => some .constants
  | .runtime => none
  | .literal => none

end Kind

/-- A classified key: the store, and the name looked up there. -/
structure Key where
  kind : Kind
  name : String
deriving DecidableEq

def isSigilChar (c : Char) : Bool := c == '$' || c == '#' || c == '!'

def startsWithSigil (text : String) : Bool :=
  match text.toList with
  | c :: _ => isSigilChar c
  | [] => false

namespace Key

def ofChars : List Char → Key
  | '!' :: '!' :: name => ⟨.fileConstant, String.ofList name⟩
  | '!' :: name => ⟨.constant, String.ofList name⟩
  | '$' :: name => ⟨.runtime, String.ofList name⟩
  | '#' :: name => ⟨.computed, String.ofList name⟩
  | name => ⟨.literal, String.ofList name⟩

/-- Classifies a key; every text classifies. -/
def parse (text : String) : Key := ofChars text.toList

/-- The text of a key: the sigil and the name. -/
def display (key : Key) : String := String.ofList (key.kind.sigil ++ key.name.toList)

def isSigil (key : Key) : Bool := key.kind != .literal

end Key

/-- A key that the grammar refuses. -/
structure MalformedKey where
  key : String
deriving DecidableEq

def MalformedKey.message (error : MalformedKey) : String :=
  "malformed key: " ++ Quoted.quote error.key

/-- How strictly keys are classified. -/
inductive Grammar where
  /-- Every text is a key. -/
  | lenient
  /-- A name after a sigil may not start with a sigil character. -/
  | strict
deriving DecidableEq, Inhabited

namespace Grammar

def label : Grammar → String
  | .lenient => "lenient"
  | .strict => "strict"

def ofLabel? (text : String) : Option Grammar :=
  if text = "lenient" then some .lenient
  else if text = "strict" then some .strict
  else none

theorem ofLabel?_eq_some_iff {text : String} {grammar : Grammar} :
    ofLabel? text = some grammar ↔ text = grammar.label := by
  unfold ofLabel?
  split
  case isTrue hlenient => cases grammar <;> simp [hlenient, label]
  case isFalse hlenient =>
    split
    case isTrue hstrict => cases grammar <;> simp [hstrict, label]
    case isFalse hstrict => cases grammar <;> simp [hlenient, hstrict, label]

def dump : Grammar → Dump
  | .lenient => .atom "Lenient"
  | .strict => .atom "Strict"

def parse (grammar : Grammar) (text : String) : Except MalformedKey Key :=
  let key := Key.parse text
  if grammar = .strict ∧ key.isSigil ∧ startsWithSigil key.name then .error ⟨text⟩ else .ok key

end Grammar

end SigilLookup
