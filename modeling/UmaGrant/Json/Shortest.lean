import UmaGrant.Json.Double
/-! # The fewest digits that read back

The text of a floating point number carries the fewest decimal digits that still round to it, and
of several such digit strings the one nearest to it. `Double.shortest` finds them by trying, for
one digit, two digits and so on, the two neighbours of the number on that decimal grid.
-/

namespace UmaGrant

/-- The decimal number `digits · 10 ^ exponent`. -/
structure Decimal where
  digits : Nat
  exponent : Int
deriving DecidableEq, Repr

namespace Double

/-- Compares `count · 10 ^ tens` with `parts · 2 ^ twos`. -/
def compareScaled (count : Nat) (tens : Int) (parts : Nat) (twos : Int) : Ordering :=
  compare (count * Nat.pow 10 tens.toNat * Nat.pow 2 (-twos).toNat)
    (parts * Nat.pow 2 twos.toNat * Nat.pow 10 (-tens).toNat)

/-- Whether a decimal rounds to a number other than zero, by the interval of reals that do: its
ends belong to it when the significand is even, and the lower half of it is shorter below a power
of two. The ends are counted in quarters of the last binary place. -/
def roundsTo (double : Double) (decimal : Decimal) : Bool :=
  let narrow := double.significand = Nat.pow 2 52 ∧ -1074 < double.exponent
  let low := 4 * double.significand - (if narrow then 1 else 2)
  let high := 4 * double.significand + 2
  let even := double.significand % 2 = 0
  let above := compareScaled decimal.digits decimal.exponent low (double.exponent - 2)
  let below := compareScaled decimal.digits decimal.exponent high (double.exponent - 2)
  (above = .gt || (even && above = .eq)) && (below = .lt || (even && below = .eq))

/-- The decimal exponent of the leading digit of a number other than zero. -/
def leadingPlace (double : Double) : Int :=
  let (numerator, denominator) := double.magnitude
  ((Nat.toDigits 10 (numerator * Nat.pow 10 400 / denominator)).length : Int) - 401

/-- The grid point below a number for a last decimal place, and twice the remaining distance over
the spacing, as a numerator and a denominator. -/
def gridBelow (double : Double) (place : Int) : Nat × Nat × Nat :=
  let (numerator, denominator) := double.magnitude
  let top := numerator * Nat.pow 10 (-place).toNat
  let bottom := denominator * Nat.pow 10 place.toNat
  (top / bottom, 2 * (top % bottom), bottom)

/-- The better of the two neighbours on one grid, if either rounds to the number. -/
def onGrid? (double : Double) (place : Int) : Option Decimal :=
  let (floor, twice, spacing) := double.gridBelow place
  let lower : Decimal := ⟨floor, place⟩
  let upper : Decimal := ⟨floor + 1, place⟩
  let upperNearer := spacing < twice ∨ (spacing = twice ∧ floor % 2 = 1)
  let first := if upperNearer then upper else lower
  let second := if upperNearer then lower else upper
  if double.roundsTo first then some first
  else if double.roundsTo second then some second
  else none

/-- Tries grids of `count` digits and more, `fuel` of them at most. -/
def searchGrids (double : Double) (leading : Int) (count : Nat) : Nat → Decimal
  | 0 => ⟨double.significand, 0⟩
  | fuel + 1 =>
    match double.onGrid? (leading - count + 1) with
    | some decimal => decimal
    | none => searchGrids double leading (count + 1) fuel

/-- A decimal without trailing zeros in its digits. -/
def dropZeros (decimal : Decimal) : Nat → Decimal
  | 0 => decimal
  | fuel + 1 =>
    if decimal.digits % 10 = 0 ∧ decimal.digits ≠ 0 then
      dropZeros ⟨decimal.digits / 10, decimal.exponent + 1⟩ fuel
    else decimal

/-- The shortest decimal that rounds to a number. Seventeen digits always suffice. -/
def shortest (double : Double) : Decimal :=
  if double.significand = 0 then ⟨0, 0⟩
  else dropZeros (searchGrids double double.leadingPlace 1 17) 20

end Double

namespace Double

/-- The layout of numbers in JSON text: leading places from `-5` to `15` are written plainly and
all others with an exponent. -/
def needsExponent (leading : Int) : Bool := leading < -5 || 15 < leading

/-- Digits with a point after the leading place; a number without fraction ends in `.0`. -/
def positional (digits : List Char) (exponent : Int) : List Char :=
  if 0 ≤ exponent then digits ++ List.replicate exponent.toNat '0' ++ ['.', '0']
  else
    let places := (-exponent).toNat
    if places < digits.length then
      digits.take (digits.length - places) ++ '.' :: digits.drop (digits.length - places)
    else '0' :: '.' :: (List.replicate (places - digits.length) '0' ++ digits)

/-- One digit, a fraction if there are more digits, and a signed exponent. -/
def exponential (digits : List Char) (leading : Int) : List Char :=
  let fraction := if digits.length ≤ 1 then [] else '.' :: digits.drop 1
  let sign := if leading < 0 then '-' else '+'
  digits.take 1 ++ fraction ++ 'e' :: sign :: Nat.toDigits 10 leading.natAbs

def render (double : Double) : List Char :=
  let decimal := double.shortest
  let digits := Nat.toDigits 10 decimal.digits
  let leading : Int := decimal.exponent + digits.length - 1
  let unsigned :=
    if needsExponent leading then exponential digits leading
    else positional digits decimal.exponent
  if double.negative then '-' :: unsigned else unsigned

end Double

end UmaGrant
