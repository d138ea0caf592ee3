/-!
# UTF-8

Byte sequences and the text they stand for. `encode` writes a text as bytes; `pieces` reads any
byte sequence as characters and maximal ill-formed stretches, and the two readings a caller may
ask for are views of it: `decode?` refuses a sequence with an ill-formed stretch, `decodeLossy`
puts U+FFFD in the place of each.

The ranges of the second byte rule out overlong forms, surrogates and values above U+10FFFF, so a
stretch is found ill formed at its first wrong byte, and that byte starts the next piece.
-/

namespace SigilLookup.Utf8

def encode (text : String) : List UInt8 := text.toList.flatMap String.utf8EncodeChar

/-- What a byte above 0x7F may lead: the bits it contributes, the range of the second byte, and
how many more continuation bytes follow that one. -/
def leadShape (lead : UInt8) : Option (Nat × UInt8 × UInt8 × Nat) :=
  if 0xC2 ≤ lead ∧ lead ≤ 0xDF then some (lead.toNat - 0xC0, 0x80, 0xBF, 0)
  else if lead = 0xE0 then some (0, 0xA0, 0xBF, 1)
  else if lead = 0xED then some (0xD, 0x80, 0x9F, 1)
  else if 0xE1 ≤ lead ∧ lead ≤ 0xEF then some (lead.toNat - 0xE0, 0x80, 0xBF, 1)
  else if lead = 0xF0 then some (0, 0x90, 0xBF, 2)
  else if 0xF1 ≤ lead ∧ lead ≤ 0xF3 then some (lead.toNat - 0xF0, 0x80, 0xBF, 2)
  else if lead = 0xF4 then some (4, 0x80, 0x8F, 2)
  else none

/-- Reads `more` continuation bytes onto the bits gathered so far. The number is how many bytes
beyond the lead byte belong to the piece. -/
def continuation : Nat → Nat → List UInt8 → Nat → Option Char × Nat
  | 0, bits, _, used => (some (Char.ofNat bits), used)
  | more + 1, bits, byte :: rest, used =>
    if 0x80 ≤ byte ∧ byte ≤ 0xBF then
      continuation more (bits * 64 + (byte.toNat - 0x80)) rest (used + 1)
    else (none, used)
  | _ + 1, _, [], used => (none, used)

/-- The piece that `lead` starts: its character, or nothing if it is ill formed, and how many of
the bytes after `lead` belong to it. -/
def piece (lead : UInt8) (rest : List UInt8) : Option Char × Nat :=
  if lead < 0x80 then (some (Char.ofNat lead.toNat), 0)
  else
    match leadShape lead, rest with
    | some (bits, low, high, more), second :: tail =>
      if low ≤ second ∧ second ≤ high then
        continuation more (bits * 64 + (second.toNat - 0x80)) tail 1
      else (none, 0)
    | _, _ => (none, 0)

/-- Splits a byte sequence into characters and maximal ill-formed stretches. -/
def pieces : List UInt8 → List (Option Char)
  | [] => []
  | lead :: rest => (piece lead rest).1 :: pieces (rest.drop (piece lead rest).2)
termination_by bytes => bytes.length
decreasing_by simp only [List.length_drop, List.length_cons]; omega

/-- The text that the bytes encode, if they are well formed throughout. -/
def decode? (bytes : List UInt8) : Option String :=
  ((pieces bytes).mapM id).map String.ofList

/-- The text that the bytes encode, with U+FFFD for each ill-formed stretch. -/
def decodeLossy (bytes : List UInt8) : String :=
  String.ofList ((pieces bytes).map fun piece => piece.getD '\uFFFD')

end SigilLookup.Utf8
