/-!
# Finite doubles

A finite double is a sign and a whole number of units of `2 ^ -1074`, of which at most 53 leading
bits are significant. It is held here in exactly that form, so every operation is arithmetic on
natural numbers: compute the exact quotient and round it once, to the nearest double, a half going
to the even neighbour. A quotient that rounds beyond the greatest double has no result.
-/

namespace SigilLookup

/-- The finite double `± significand * 2 ^ shift` units of `2 ^ -1074`. The bound on `shift` is that
of the greatest finite double; a shift is only used when all 53 bits are. -/
structure Binary64 where
  negative : Bool
  significand : Nat
  shift : Nat
  canonical : significand < 0x20000000000000 ∧ shift ≤ 2045 ∧
    (shift = 0 ∨ 0x10000000000000 ≤ significand)
deriving DecidableEq

namespace Binary64

def zero (negative : Bool) : Binary64 := ⟨negative, 0, 0, by decide⟩

def isZero (x : Binary64) : Bool := x.significand == 0

def withSign (negative : Bool) (x : Binary64) : Binary64 := { x with negative := negative }

/-- Equality as numbers: the two zeros are equal. -/
def same (x y : Binary64) : Bool := x == y || (x.isZero && y.isZero)

/-- The quotient of two natural numbers, rounded to the nearest one, a half to the even one. -/
def roundDiv (num den : Nat) : Nat :=
  let quotient := num / den
  let twice := 2 * (num % den)
  if den < twice ∨ (twice = den ∧ quotient % 2 = 1) then quotient + 1 else quotient

/-- A double from a significand of at most 53 bits, or from `2 ^ 53` after rounding up. -/
def ofRounded? (negative : Bool) (significand shift : Nat) : Option Binary64 :=
  if h : significand < 0x20000000000000 ∧ shift ≤ 2045 ∧
      (shift = 0 ∨ 0x10000000000000 ≤ significand) then
    some ⟨negative, significand, shift, h⟩
  else if h : significand = 0x20000000000000 ∧ shift < 2045 then
    some ⟨negative, 0x10000000000000, shift + 1, by omega⟩
  else none

/-- The double nearest to `num / den`, for a positive `den`; none if it would not be finite. -/
def ofRatio? (negative : Bool) (num den : Nat) : Option Binary64 :=
  let units := num <<< 1074
  let shift := (units / den).log2 - 52
  ofRounded? negative (roundDiv units (den <<< shift)) shift

/-- The single-precision number nearest to `num / den`, for a positive `den`; none if it would not
be finite. It has 24 significant bits and consists of units of `2 ^ -149`, so it is a double as
well. -/
def singleOfRatio? (negative : Bool) (num den : Nat) : Option Binary64 :=
  let units := num <<< 149
  let shift := (units / den).log2 - 23
  let magnitude := roundDiv units (den <<< shift) <<< shift
  if magnitude < 1 <<< 277 then ofRatio? negative magnitude (1 <<< 149) else none

/-- The magnitude in units of `2 ^ -1074`. -/
def units (x : Binary64) : Nat := x.significand <<< x.shift

def mul? (x y : Binary64) : Option Binary64 :=
  ofRatio? (x.negative != y.negative) (x.units * y.units) (1 <<< 2148)

/-- The double nearest to the quotient by a number that is not zero. -/
def div? (x y : Binary64) : Option Binary64 :=
  ofRatio? (x.negative != y.negative) x.units y.units

def ofNat? (n : Nat) : Option Binary64 := ofRatio? false n 1

def ofInt? (i : Int) : Option Binary64 := ofRatio? (i < 0) i.natAbs 1

end Binary64

end SigilLookup
