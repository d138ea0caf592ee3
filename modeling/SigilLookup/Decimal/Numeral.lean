import SigilLookup.Decimal.Binary64

/-!
# Numerals

Reading number texts. `Numeral.nearest` gives the double nearest to a decimal, `Numeral.double?`
reads a whole decimal numeral with an optional sign, fraction and exponent or one of the words for
infinity and not-a-number, and `Numeral.integer?` reads an integer in a given base with bounds.
-/

namespace SigilLookup

/-- A double of any kind. -/
inductive Double where
  | finite (value : Binary64)
  | infinite (negative : Bool)
  | nan
deriving DecidableEq

namespace Numeral

/-- The value of a digit in bases up to 36, letters in either case. -/
def digitValue? (c : Char) : Option Nat :=
  if '0' ≤ c ∧ c ≤ '9' then some (c.toNat - '0'.toNat)
  else if 'a' ≤ c ∧ c ≤ 'z' then some (c.toNat - 'a'.toNat + 10)
  else if 'A' ≤ c ∧ c ≤ 'Z' then some (c.toNat - 'A'.toNat + 10)
  else none

/-- The number that digits of the given base stand for; none if there is no digit, or one that
is not of that base. -/
def natural? (base : Nat) (cs : List Char) : Option Nat :=
  if cs.isEmpty then none
  else cs.foldlM (fun value c => do
    let digit ← digitValue? c
    if digit < base then some (value * base + digit) else none) 0

def ofDigits (cs : List Char) : Nat :=
  cs.foldl (fun value c => value * 10 + (c.toNat - '0'.toNat)) 0

/-- An integer with an optional sign, within the bounds. -/
def integer? (base : Nat) (least greatest : Int) (cs : List Char) : Option Int := do
  let value ← match cs with
    | '-' :: rest => (natural? base rest).map fun n => -(n : Int)
    | '+' :: rest => (natural? base rest).map Int.ofNat
    | _ => (natural? base cs).map Int.ofNat
  if least ≤ value ∧ value ≤ greatest then some value else none

def leastInt64 : Int := -0x8000000000000000

def greatestInt64 : Int := 0x7FFFFFFFFFFFFFFF

def int64In? (base : Nat) (cs : List Char) : Option Int := integer? base leastInt64 greatestInt64 cs

def int64? (cs : List Char) : Option Int := int64In? 10 cs

/-- The number that `significand * 10 ^ exponent` is rounded to, infinite if the quotient `round` is
given has no finite result. Exponents far outside the range of doubles are decided without computing
the power. -/
def rounded (round : Bool → Nat → Nat → Option Binary64) (negative : Bool) (significand : Nat)
    (exponent : Int) : Double :=
  if significand = 0 then .finite (.zero negative)
  else
    let digits : Int := (Nat.toDigits 10 significand).length
    if 310 < digits + exponent then .infinite negative
    else if digits + exponent < -330 then .finite (.zero negative)
    else
      let ratio :=
        if 0 ≤ exponent then round negative (significand * Nat.pow 10 exponent.toNat) 1
        else round negative significand (Nat.pow 10 (-exponent).toNat)
      match ratio with
      | some value => .finite value
      | none => .infinite negative

/-- The double nearest to `significand * 10 ^ exponent`, infinite beyond the greatest finite one. -/
def nearest : Bool → Nat → Int → Double := rounded Binary64.ofRatio?

def nearestSingle : Bool → Nat → Int → Double := rounded Binary64.singleOfRatio?

/-- An exponent part: nothing, or a letter, an optional sign and at least one digit. -/
def exponent? : List Char → Option Int
  | [] => some 0
  | e :: rest =>
    if e = 'e' ∨ e = 'E' then
      match rest with
      | '-' :: digits => (natural? 10 digits).map fun n => -(n : Int)
      | '+' :: digits => (natural? 10 digits).map Int.ofNat
      | digits => (natural? 10 digits).map Int.ofNat
    else none

/-- A decimal without its sign: digits with an optional point among or around them, at least one
digit in all, and an optional exponent. The result is a number and the power of ten that it is
multiplied with. -/
def decimal? (cs : List Char) : Option (Nat × Int) := do
  let whole := cs.takeWhile Char.isDigit
  let (fraction, rest) := match cs.dropWhile Char.isDigit with
    | '.' :: rest => (rest.takeWhile Char.isDigit, rest.dropWhile Char.isDigit)
    | rest => ([], rest)
  if whole.isEmpty ∧ fraction.isEmpty then none
  else
    let exponent ← exponent? rest
    return (ofDigits (whole ++ fraction), exponent - fraction.length)

def unsigned? (negative : Bool) (cs : List Char) : Option Double :=
  (decimal? cs).map fun (significand, exponent) => nearest negative significand exponent

def single? (negative : Bool) (cs : List Char) : Option Double :=
  (decimal? cs).map fun (significand, exponent) => nearestSingle negative significand exponent

def lowered (cs : List Char) : List Char := cs.map Char.toLower

/-- A number without its sign, or a word for infinity or not-a-number in any case. -/
def magnitude? (negative : Bool) (cs : List Char) : Option Double :=
  if lowered cs = "inf".toList ∨ lowered cs = "infinity".toList then some (.infinite negative)
  else if lowered cs = "nan".toList then some .nan
  else unsigned? negative cs

def double? : List Char → Option Double
  | '-' :: rest => magnitude? true rest
  | '+' :: rest => magnitude? false rest
  | cs => magnitude? false cs

end Numeral

end SigilLookup
