/-!
# Binary floating-point numbers

A finite binary64 number is a sign, a significand of at most 53 bits and a
power of two.  Decimals are rounded to the nearest such number, a tie going to
the even significand, and a number is printed with the fewest digits that
round back to it.  All arithmetic is exact.
-/

namespace ReqConflict

/-- The number `significand * 2 ^ exponent` with a sign.  The significand has
53 bits unless the exponent is the least one. -/
structure Binary64 where
  negative : Bool
  significand : Nat
  exponent : Int
deriving DecidableEq, Repr

/-- The number `digits * 10 ^ exponent`. -/
structure Decimal where
  digits : Nat
  exponent : Int
deriving DecidableEq, Repr

namespace Decimal

def quotient (decimal : Decimal) : Nat × Nat :=
  (decimal.digits * Nat.pow 10 decimal.exponent.toNat, Nat.pow 10 (-decimal.exponent).toNat)

def length (n : Nat) : Nat :=
  if n = 0 then 0 else (Nat.toDigits 10 n).length

/-- The position of the decimal point after the first digit of a decimal that
is written with it in front: the value is below ten to this power. -/
def order (decimal : Decimal) : Int :=
  length decimal.digits + decimal.exponent

/-- Moves up to `count` trailing zeros of the digits into the exponent. -/
def stripZeros : Nat → Decimal → Decimal
  | 0, decimal => decimal
  | count + 1, decimal =>
      if decimal.digits % 10 = 0 then stripZeros count ⟨decimal.digits / 10, decimal.exponent + 1⟩
      else decimal

def withoutTrailingZeros (decimal : Decimal) : Decimal :=
  stripZeros (length decimal.digits) decimal

end Decimal

namespace Binary64

/-- The quotient rounded to the nearest integer, a tie to the even one. -/
def roundQuotient (numerator denominator : Nat) : Nat :=
  let floor := numerator / denominator
  let twice := 2 * (numerator % denominator)
  if twice < denominator then floor
  else if twice = denominator ∧ floor % 2 = 0 then floor
  else floor + 1

def leastExponent : Int := -1074

def greatestExponent : Int := 971

def scale (numerator denominator : Nat) (exponent : Int) : Nat × Nat :=
  (numerator * Nat.pow 2 (-exponent).toNat, denominator * Nat.pow 2 exponent.toNat)

/-- The exponent at which a positive quotient has a significand of 53 bits, or
the least exponent. -/
def exponentOf (numerator denominator : Nat) : Int :=
  let guess := max leastExponent ((Nat.log2 numerator : Int) - Nat.log2 denominator - 53)
  let (scaled, divisor) := scale numerator denominator guess
  if scaled / divisor < Nat.pow 2 53 then guess else guess + 1

def nearest (decimal : Decimal) : Option (Nat × Int) :=
  if decimal.digits = 0 ∨ decimal.order < -330 then some (0, leastExponent)
  else if 310 < decimal.order then none
  else
    let (numerator, denominator) := decimal.quotient
    let exponent := exponentOf numerator denominator
    let (scaled, divisor) := scale numerator denominator exponent
    let significand := roundQuotient scaled divisor
    let (significand, exponent) :=
      if significand < Nat.pow 2 53 then (significand, exponent) else (Nat.pow 2 52, exponent + 1)
    if exponent ≤ greatestExponent then some (significand, exponent) else none

def ofDecimal (negative : Bool) (decimal : Decimal) : Option Binary64 :=
  (nearest decimal).map fun (significand, exponent) => ⟨negative, significand, exponent⟩

/-- The decimals with `digits` digits on both sides of a positive number, the
nearer one first. -/
def neighbours (number : Binary64) (digits : Nat) : List Decimal :=
  let (numerator, denominator) := scale number.significand 1 (-number.exponent)
  let order := (Decimal.length (numerator * Nat.pow 10 400 / denominator) : Int) - 400
  let exponent := order - digits
  let scaled := numerator * Nat.pow 10 (-exponent).toNat
  let divisor := denominator * Nat.pow 10 exponent.toNat
  let below : Decimal := ⟨scaled / divisor, exponent⟩
  let above : Decimal := ⟨scaled / divisor + 1, exponent⟩
  if roundQuotient scaled divisor = below.digits then [below, above] else [above, below]

/-- The first decimal of at least `digits` digits that rounds back to the
number, looking at `tries` lengths. -/
def shortestFrom (number : Binary64) (digits : Nat) : Nat → Option Decimal
  | 0 => none
  | tries + 1 =>
      match (number.neighbours digits).find? fun decimal =>
          nearest decimal == some (number.significand, number.exponent) with
      | some decimal => some decimal
      | none => shortestFrom number (digits + 1) tries

/-- The shortest decimal that rounds back to a positive number.  Seventeen
digits always do. -/
def shortest (number : Binary64) : Decimal :=
  ((shortestFrom number 1 17).getD ⟨0, 0⟩).withoutTrailingZeros

end Binary64

end ReqConflict
