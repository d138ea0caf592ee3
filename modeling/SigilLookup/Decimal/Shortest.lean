import SigilLookup.Decimal.Binary64

/-!
# The shortest decimal of a double

`Shortest.digits` gives the fewest decimal digits that read back as the same double, and of those
the nearest to it. A decimal reads back as `x` if it lies in the interval of reals that round to
`x`: from half way to the neighbour below up to half way to the neighbour above, the ends included
if the significand is even. On the grid of decimals with a given number of digits it is enough to
try the two points around `x`. If both read back and are equally near, a `Tie` decides.

Two number texts are built from the digits: `Shortest.exponential`, which JSON texts use, and
`Shortest.positional`, which writes no exponent at all.
-/

namespace SigilLookup.Shortest

/-- Decimal digits `d₁ d₂ …` and the place of the point: the number `0.d₁d₂… * 10 ^ point`. -/
structure Digits where
  digits : List Char
  point : Int
deriving DecidableEq

/-- Which of two equally near decimals is taken. -/
inductive Tie where
  | toEven
  | away
deriving DecidableEq

/-- Tells whether the lower one of two points on a grid is taken. -/
def Tie.takesFloor (tie : Tie) (floor : Nat) : Bool :=
  match tie with
  | .toEven => floor % 2 == 0
  | .away => false

def natDigits (n : Nat) : List Char := Nat.toDigits 10 n

/-- The exponent of the greatest power of ten that is at most `num / den`, both positive. -/
def log10 (num den : Nat) : Int :=
  if den ≤ num then ((natDigits (num / den)).length : Int) - 1
  else -((natDigits ((den + num - 1) / num - 1)).length : Int)

def timesPow10 (num den : Nat) (exponent : Int) : Nat × Nat :=
  if 0 ≤ exponent then (num * Nat.pow 10 exponent.toNat, den)
  else (num, den * Nat.pow 10 (-exponent).toNat)

def trimZeros (digits : List Char) : List Char :=
  (digits.reverse.dropWhile (· == '0')).reverse

/-- The interval around `x`, in quarters of a unit: distance to the lower end, to the upper end,
and whether the ends belong to it. -/
def margins (x : Binary64) : Nat × Nat × Bool :=
  let half := 2 <<< x.shift
  (if x.significand = 0x10000000000000 ∧ 0 < x.shift then half / 2 else half, half,
    x.significand % 2 == 0)

/-- Tries the grid of step `10 ^ step`: the nearer of the two grid points around `x` that read
back as `x`. -/
def onGrid? (tie : Tie) (x : Binary64) (step : Int) : Option Nat :=
  let quarters := 4 * x.units
  let (below, above, closed) := margins x
  let (num, den) := timesPow10 quarters (1 <<< 1076) (-step)
  let scale := num / quarters
  let floor := num / den
  let toFloor := num - floor * den
  let toCeil := (floor + 1) * den - num
  let floorHits := floor ≠ 0 ∧
    (toFloor < below * scale ∨ (closed ∧ toFloor = below * scale))
  let ceilHits := toCeil < above * scale ∨ (closed ∧ toCeil = above * scale)
  if floorHits ∧ (¬ ceilHits ∨ toFloor < toCeil ∨ (toFloor = toCeil ∧ tie.takesFloor floor)) then
    some floor
  else if ceilHits then some (floor + 1)
  else none

/-- Looks for the coarsest grid with a hit, `places` being the digits not yet tried. -/
def search (tie : Tie) (x : Binary64) (top : Int) : Nat → Int → Digits
  | 0, _ => ⟨['0'], 0⟩
  | places + 1, count =>
    let step := top - count + 1
    match onGrid? tie x step with
    | some point =>
      let digits := natDigits point
      ⟨trimZeros digits, step + digits.length⟩
    | none => search tie x top places (count + 1)

/-- The fewest digits that read back as the magnitude of `x`; seventeen always do. -/
def digits (tie : Tie) (x : Binary64) : Digits :=
  if x.isZero then ⟨['0'], 1⟩ else search tie x (log10 x.units (1 <<< 1074)) 17 1

/-- The digits with the point in place and at least one digit on either side of it. -/
def placed (d : Digits) : List Char :=
  if d.point ≤ 0 then '0' :: '.' :: (List.replicate (-d.point).toNat '0' ++ d.digits)
  else
    let whole := d.digits.take d.point.toNat
    let fraction := d.digits.drop d.point.toNat
    whole ++ List.replicate (d.point.toNat - d.digits.length) '0' ++
      '.' :: (if fraction.isEmpty then ['0'] else fraction)

def exponentText (exponent : Int) : List Char :=
  (if exponent < 0 then '-' else '+') :: natDigits exponent.natAbs

/-- Positional from 10⁻⁵ up to but not including 10¹⁶, with an exponent elsewhere. Ties go to the
even digit. -/
def exponential (x : Binary64) : String :=
  let d := digits .toEven x
  let body :=
    if -5 < d.point ∧ d.point ≤ 16 then placed d
    else
      let fraction := d.digits.drop 1
      d.digits.take 1 ++ (if fraction.isEmpty then [] else '.' :: fraction) ++
        'e' :: exponentText (d.point - 1)
  String.ofList (if x.negative then '-' :: body else body)

/-- Positional throughout, and without a point if there is no fraction. Ties go away from zero. -/
def positional (x : Binary64) : String :=
  let d := digits .away x
  let body :=
    if (d.digits.length : Int) ≤ d.point then
      d.digits ++ List.replicate (d.point.toNat - d.digits.length) '0'
    else placed d
  String.ofList (if x.negative then '-' :: body else body)

end SigilLookup.Shortest
