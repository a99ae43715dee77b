/-! # Binary floating point numbers

A `Double` is a finite IEEE 754 binary64 number in its normal form. Arithmetic is exact on
natural numbers and rounds once, to the nearest number and of two nearest ones to the even one.
-/

namespace UmaGrant

/-- The finite binary64 number `± significand · 2 ^ exponent`. The significand is below `2 ^ 53`,
and at least `2 ^ 52` unless the exponent is the least one, `-1074`. -/
structure Double where
  negative : Bool
  significand : Nat
  exponent : Int
deriving DecidableEq, Repr

namespace Double

def zero (negative : Bool) : Double := ⟨negative, 0, -1074⟩

/-- A quotient rounded to the nearest natural number, a tie to the even one. -/
def roundQuotient (numerator denominator : Nat) : Nat :=
  let whole := numerator / denominator
  let twice := 2 * (numerator % denominator)
  if twice < denominator then whole
  else if denominator < twice then whole + 1
  else whole + whole % 2

/-- `numerator / denominator / 2 ^ exponent`, rounded to a natural number. -/
def scaledQuotient (numerator denominator : Nat) (exponent : Int) : Nat :=
  if 0 ≤ exponent then roundQuotient numerator (denominator * Nat.pow 2 exponent.toNat)
  else roundQuotient (numerator * Nat.pow 2 (-exponent).toNat) denominator

/-- The binary exponent at which a positive quotient has a significand of 53 bits, or the least
exponent where that is higher. -/
def exponentOf (numerator denominator : Nat) : Int :=
  let estimate : Int := (Nat.log2 numerator : Int) - Nat.log2 denominator - 53
  let reached : Bool :=
    if 0 ≤ estimate then denominator * Nat.pow 2 (estimate.toNat + 53) ≤ numerator
    else denominator * Nat.pow 2 53 ≤ numerator * Nat.pow 2 (-estimate).toNat
  max (if reached then estimate + 1 else estimate) (-1074)

/-- The number nearest to a quotient, or none where that is beyond the largest one. -/
def ofQuotient? (negative : Bool) (numerator denominator : Nat) : Option Double :=
  if numerator = 0 then some (zero negative)
  else
    let exponent := exponentOf numerator denominator
    let significand := scaledQuotient numerator denominator exponent
    let carried := significand = Nat.pow 2 53
    let exponent := if carried then exponent + 1 else exponent
    let significand := if carried then Nat.pow 2 52 else significand
    if 971 < exponent then none else some ⟨negative, significand, exponent⟩

/-- The magnitude as a numerator and a denominator. -/
def magnitude (double : Double) : Nat × Nat :=
  if 0 ≤ double.exponent then (double.significand * Nat.pow 2 double.exponent.toNat, 1)
  else (double.significand, Nat.pow 2 (-double.exponent).toNat)

/-- The rounded product, or none on overflow. -/
def mul? (left right : Double) : Option Double :=
  let (a, b) := left.magnitude
  let (c, d) := right.magnitude
  ofQuotient? (left.negative ^^ right.negative) (a * c) (b * d)

/-- The rounded quotient by a number other than zero. -/
def div? (left right : Double) : Option Double :=
  let (a, b) := left.magnitude
  let (c, d) := right.magnitude
  ofQuotient? (left.negative ^^ right.negative) (a * d) (b * c)

/-- Equality of the numbers: zero has two signs and is one number. -/
def sameNumber (left right : Double) : Bool :=
  left = right || (left.significand = 0 && right.significand = 0)

end Double

end UmaGrant
