import SigilLookup.Decimal.Binary64

/-!
# JSON values

Integers that fit 64-bit words, signed or unsigned, stay integers; every other number is a finite
double. The two are told apart: no integer equals a double, not even of the same magnitude.

The members of an object are listed in ascending order of their names, each name once. The order of
names is that of their code points, which is also the order of their UTF-8 bytes. Readers collect
members in textual order, and `canonical` brings a value into this form; of members with one name
it keeps the last.
-/

namespace SigilLookup

inductive Number where
  | int (value : Int) (fits : -0x8000000000000000 ≤ value ∧ value < 0x10000000000000000)
  | float (value : Binary64)
deriving DecidableEq

namespace Number

def ofInt? (value : Int) : Option Number :=
  if h : -0x8000000000000000 ≤ value ∧ value < 0x10000000000000000 then some (.int value h)
  else none

def ofUInt64 (value : UInt64) : Number :=
  .int value.toNat (by have := value.toNat_lt; omega)

def ofUInt8 (value : UInt8) : Number :=
  .int value.toNat (by have := value.toNat_lt; omega)

/-- Equality of numbers: integers by value, doubles as numbers, never one with the other. -/
def same : Number → Number → Bool
  | .int x _, .int y _ => x == y
  | .float x, .float y => x.same y
  | _, _ => false

end Number

inductive Json where
  | null
  | bool (value : Bool)
  | num (value : Number)
  | str (value : String)
  | arr (items : List Json)
  | obj (members : List (String × Json))
deriving Inhabited

namespace Members

/-- Puts a member into its place, over one of the same name. -/
def insert (name : String) (value : α) : List (String × α) → List (String × α)
  | [] => [(name, value)]
  | (key, old) :: rest =>
    if name = key then (name, value) :: rest
    else if name < key then (name, value) :: (key, old) :: rest
    else (key, old) :: insert name value rest

/-- Sorts members by name, the last of each name winning. -/
def ofList (members : List (String × α)) : List (String × α) :=
  members.foldl (fun sorted (name, value) => insert name value sorted) []

end Members

namespace Json

def object (members : List (String × Json)) : Json := .obj (Members.ofList members)

def member? (name : String) : Json → Option Json
  | .obj members => members.lookup name
  | _ => none

mutual

/-- Sorts the members of every object, the last of each name winning. -/
def canonical : Json → Json
  | .null => .null
  | .bool value => .bool value
  | .num value => .num value
  | .str value => .str value
  | .arr items => .arr (canonicalItems items)
  | .obj members => .obj (Members.ofList (canonicalMembers members))

def canonicalItems : List Json → List Json
  | [] => []
  | item :: rest => item.canonical :: canonicalItems rest

def canonicalMembers : List (String × Json) → List (String × Json)
  | [] => []
  | (name, value) :: rest => (name, value.canonical) :: canonicalMembers rest

end

mutual

/-- Equality of values in canonical form, numbers compared by `Number.same`. -/
def same : Json → Json → Bool
  | .null, .null => true
  | .bool x, .bool y => x == y
  | .num x, .num y => x.same y
  | .str x, .str y => x == y
  | .arr xs, .arr ys => sameItems xs ys
  | .obj xs, .obj ys => sameMembers xs ys
  | _, _ => false

def sameItems : List Json → List Json → Bool
  | [], [] => true
  | x :: xs, y :: ys => x.same y && sameItems xs ys
  | _, _ => false

def sameMembers : List (String × Json) → List (String × Json) → Bool
  | [], [] => true
  | (name, x) :: xs, (other, y) :: ys => name == other && x.same y && sameMembers xs ys
  | _, _ => false

end

end Json

end SigilLookup
