/-
  Numbers in the binary format of 64 bits. A finite magnitude is a whole multiple of the smallest
  positive number of the format, so it is kept as a natural number in that unit, and rounding to the
  format and the search for the shortest decimal are exact.
-/

namespace Taskbook

/-- A number of the format; its magnitude is given in units of the smallest positive number. -/
inductive Binary64 where
  | nan
  | infinite (negative : Bool)
  | finite (negative : Bool) (magnitude : Nat)
  deriving DecidableEq, Repr

namespace Binary64

/-- The number of units in one. -/
def unitsPerOne : Nat := Nat.pow 2 1074

/-- The largest finite magnitude. -/
def largest : Nat := (Nat.pow 2 53 - 1) * Nat.pow 2 2045

/-- The distance from a magnitude to the next one above it: the least power of two that leaves at
    most 53 binary digits. -/
def step (magnitude : Nat) : Nat := Nat.pow 2 (Nat.log2 magnitude - 52)

/-- A quotient rounded to the nearest whole number, a half to the even one. -/
def roundQuotient (n d : Nat) : Nat :=
  let q := n / d
  let twice := 2 * (n % d)
  if twice < d then q else if d < twice then q + 1 else q + q % 2

/-- The nearest number of the format to a quotient. -/
def ofQuotient (negative : Bool) (n d : Nat) : Binary64 :=
  let units := n * unitsPerOne
  let gap := step (units / d)
  let magnitude := roundQuotient units (d * gap) * gap
  if largest < magnitude then .infinite negative else .finite negative magnitude

/-- The number of decimal digits. -/
def digitCount (n : Nat) : Nat := (Nat.repr n).length

/-- The nearest number of the format to `digits` times ten to the power `exponent`. Powers that lie
    far outside the format are not computed. -/
def ofDecimal (negative : Bool) (digits : Nat) (exponent : Int) : Binary64 :=
  let place := exponent + digitCount digits
  if digits = 0 || place < -400 then .finite negative 0
  else if 400 < place then .infinite negative
  else if 0 ≤ exponent then ofQuotient negative (digits * Nat.pow 10 exponent.toNat) 1
  else ofQuotient negative digits (Nat.pow 10 (-exponent).toNat)

/-- A decimal: digits and the power of ten that they are multiplied by. -/
structure Decimal where
  digits : Nat
  exponent : Int
  deriving DecidableEq, Repr

/-- A decimal in units, as numerator and denominator. -/
def Decimal.units (decimal : Decimal) : Nat × Nat :=
  if 0 ≤ decimal.exponent then (decimal.digits * Nat.pow 10 decimal.exponent.toNat * unitsPerOne, 1)
  else (decimal.digits * unitsPerOne, Nat.pow 10 (-decimal.exponent).toNat)

/-- Whether the nearest magnitude to a decimal is the given one. A decimal half-way between two
    magnitudes belongs to the one with the even significand. -/
def roundsTo (magnitude : Nat) (decimal : Decimal) : Bool :=
  let gap := step magnitude
  let below := if magnitude = gap * Nat.pow 2 52 && 1 < gap then gap else 2 * gap
  let (n, d) := decimal.units
  let low := (4 * magnitude - below) * d
  let high := (4 * magnitude + 2 * gap) * d
  if (magnitude / gap) % 2 = 0 then low ≤ 4 * n && 4 * n ≤ high else low < 4 * n && 4 * n < high

/-- The number of decimal places of a magnitude before its point; negative if zeros follow the
    point. -/
def placesBefore (magnitude : Nat) : Int :=
  (digitCount (magnitude * Nat.pow 10 400 / unitsPerOne) : Int) - 400

/-- The decimal of the given number of digits that rounds to a magnitude, if there is one; of two
    such decimals the nearer one. -/
def decimalOf? (magnitude count : Nat) : Option Decimal :=
  let exponent := placesBefore magnitude - count
  let (n, d) : Nat × Nat :=
    if 0 ≤ exponent then (magnitude, unitsPerOne * Nat.pow 10 exponent.toNat)
    else (magnitude * Nat.pow 10 (-exponent).toNat, unitsPerOne)
  let lower : Decimal := { digits := n / d, exponent }
  let upper : Decimal := { digits := n / d + 1, exponent }
  match roundsTo magnitude lower, roundsTo magnitude upper with
  | true, true => some (if 2 * (n % d) ≤ d then lower else upper)
  | true, false => some lower
  | false, true => some upper
  | false, false => none

/-- The decimal of the fewest digits that rounds to a magnitude. Seventeen digits always do. -/
def shortest (magnitude : Nat) : Decimal :=
  ((List.range 17).findSome? fun count => decimalOf? magnitude (count + 1)).getD
    { digits := 0, exponent := 0 }

end Binary64

end Taskbook
