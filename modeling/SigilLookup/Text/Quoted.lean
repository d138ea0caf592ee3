import SigilLookup.Text.GraphemeExtend
import SigilLookup.Text.Unprintable

/-!
# Quoted text

The form in which messages and dumps show a name: between double quotes, with a backslash escape
for the quote, the backslash and every character that a reader could not see or that would attach
to the character before it. Distinct texts have distinct quoted forms, and the closing quote is
the first one that no backslash precedes, so the form also ends itself.
-/

namespace SigilLookup.Quoted

/-- Lower-case hexadecimal digits, without leading zeros. -/
def hexDigits (code : Nat) : List Char := Nat.toDigits 16 code

def escapeChar (c : Char) : List Char :=
  if c = '\x00' then ['\\', '0']
  else if c = '\t' then ['\\', 't']
  else if c = '\r' then ['\\', 'r']
  else if c = '\n' then ['\\', 'n']
  else if c = '\\' then ['\\', '\\']
  else if c = '"' then ['\\', '"']
  else if ' ' ≤ c ∧ c ≤ '~' then [c]
  else if GraphemeExtend.contains c || Unprintable.contains c then
    ['\\', 'u', '\x7b'] ++ hexDigits c.toNat ++ ['\x7d']
  else [c]

def quoteChars (cs : List Char) : List Char := '"' :: (cs.flatMap escapeChar ++ ['"'])

def quote (text : String) : String := String.ofList (quoteChars text.toList)

end SigilLookup.Quoted
