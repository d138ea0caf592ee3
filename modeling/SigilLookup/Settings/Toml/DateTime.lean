import SigilLookup.Decimal.Numeral
import SigilLookup.Text.Split

/-!
# Dates and times in TOML

A date, a time of day, or both with or without an offset from universal time. Its value is a text:
the parts as they were written, with `T` between date and time, `Z` for no offset, a plus sign on
an offset of zero hours, and the zeros at the end of a fraction dropped. Seconds may be left out,
and a minute may have sixty-one of them.
-/

namespace SigilLookup.Toml

/-- Two digits with a value within bounds. -/
def isPair (least greatest : Nat) (a b : Char) : Bool :=
  match Numeral.natural? 10 [a, b] with
  | some value => least ≤ value && value ≤ greatest
  | none => false

def isLeapYear (year : Nat) : Bool := year % 4 == 0 && (year % 100 != 0 || year % 400 == 0)

def daysOf (year month : Nat) : Nat :=
  if month = 2 then if isLeapYear year then 29 else 28
  else if month = 4 ∨ month = 6 ∨ month = 9 ∨ month = 11 then 30
  else 31

def isDate : List Char → Bool
  | [y, e, a, r, '-', m, n, '-', d, c] =>
    match Numeral.natural? 10 [y, e, a, r], Numeral.natural? 10 [m, n] with
    | some year, some month => 1 ≤ month && month ≤ 12 && isPair 1 (daysOf year month) d c
    | _, _ => false
  | _ => false

/-- The text of a fraction of a second, kept to the nanosecond. -/
def fractionText (digits : List Char) : List Char :=
  let kept := ((digits.take 9).reverse.dropWhile (· == '0')).reverse
  '.' :: if kept.isEmpty then ['0'] else kept

/-- The text of what follows the minutes. -/
def secondsText? : List Char → Option (List Char)
  | [] => some []
  | [':', s, e] => if isPair 0 60 s e then some [':', s, e] else none
  | ':' :: s :: e :: '.' :: digits =>
    if isPair 0 60 s e ∧ !digits.isEmpty ∧ digits.all Char.isDigit then
      some (':' :: s :: e :: fractionText digits)
    else none
  | _ => none

def timeText? : List Char → Option (List Char)
  | h :: o :: ':' :: m :: i :: rest =>
    if isPair 0 23 h o ∧ isPair 0 59 m i then
      (secondsText? rest).map fun seconds => h :: o :: ':' :: m :: i :: seconds
    else none
  | _ => none

def isOffset : List Char → Bool
  | [sign, h, o, ':', m, i] => (sign == '+' || sign == '-') && isPair 0 23 h o && isPair 0 59 m i
  | _ => false

def offsetTimeText? (cs : List Char) : Option (List Char) :=
  if cs.getLast? = some 'Z' ∨ cs.getLast? = some 'z' then
    (timeText? cs.dropLast).map (· ++ ['Z'])
  else
    let offset := cs.drop (cs.length - 6)
    if isOffset offset then
      (timeText? (cs.take (cs.length - 6))).map
        (· ++ if offset = "-00:00".toList then "+00:00".toList else offset)
    else timeText? cs

def dateTimeText? (cs : List Char) : Option (List Char) :=
  if isDate cs then some cs
  else
    match cs.drop 10 with
    | separator :: time =>
      if isDate (cs.take 10) then
        if separator = 'T' ∨ separator = 't' ∨ separator = ' ' then
          (offsetTimeText? time).map fun time => cs.take 10 ++ 'T' :: time
        else none
      else timeText? cs
    | [] => timeText? cs

end SigilLookup.Toml
