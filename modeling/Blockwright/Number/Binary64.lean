/-!
# Binary floating-point numbers

Numbers of 53 significant bits as exact data: a sign, a significand and a power
of two.  Reading rounds a ratio of natural numbers to the nearest such number,
a tie going to the even significand, so that decimal text is read exactly
rounded.
-/

namespace Blockwright

/-- A binary floating-point number of 64 bits. -/
inductive Binary64 where
  /-- Not a number. -/
  | nan
  /-- An infinity, negative or not. -/
  | infinity (negative : Bool)
  /-- The number `± significand * 2 ^ exponent`. -/
  | finite (negative : Bool) (significand : Nat) (exponent : Int)
  deriving DecidableEq, Repr

namespace Binary64

/-- The exponent of the smallest positive number. -/
def leastExponent : Int := -1074

/-- The exponent of the largest numbers. -/
def greatestExponent : Int := 971

/-- The zero of a sign. -/
def zero (negative : Bool) : Binary64 :=
  .finite negative 0 leastExponent

/-- The quotient of two natural numbers rounded to the nearest, a tie to the even one. -/
def roundedQuotient (numerator denominator : Nat) : Nat :=
  let quotient := numerator / denominator
  let remainder := numerator % denominator
  if 2 * remainder < denominator then quotient
  else if denominator < 2 * remainder then quotient + 1
  else quotient + quotient % 2

/-- A ratio with its terms moved apart by a power of two, so that its value is divided by it. -/
def scaledDown (numerator denominator : Nat) (exponent : Int) : Nat × Nat :=
  if 0 ≤ exponent then
    (numerator, denominator * Nat.pow 2 exponent.toNat)
  else
    (numerator * Nat.pow 2 (-exponent).toNat, denominator)

/-- The exponent at which a positive ratio has a significand of 53 bits, or the least one. -/
def exponentOf (numerator denominator : Nat) : Int :=
  let estimate : Int := (numerator.log2 : Int) - (denominator.log2 : Int) - 52
  let (top, bottom) := scaledDown numerator denominator estimate
  max leastExponent (if top < bottom * Nat.pow 2 52 then estimate - 1 else estimate)

/-- The number nearest to a ratio. -/
def ofRatio (negative : Bool) (numerator denominator : Nat) : Binary64 :=
  if numerator = 0 then
    zero negative
  else
    let exponent := exponentOf numerator denominator
    let (top, bottom) := scaledDown numerator denominator exponent
    let significand := roundedQuotient top bottom
    let (significand, exponent) :=
      if significand = Nat.pow 2 53 then (Nat.pow 2 52, exponent + 1)
      else (significand, exponent)
    if greatestExponent < exponent then
      .infinity negative
    else
      .finite negative significand exponent

/-- The number nearest to `± digits * 10 ^ exponent`. -/
def ofDecimal (negative : Bool) (digits : Nat) (exponent : Int) : Binary64 :=
  let magnitude : Int := digits.log2 / 3 + exponent
  if digits = 0 || magnitude < -800 then
    zero negative
  else if 400 < exponent then
    .infinity negative
  else if 0 ≤ exponent then
    ofRatio negative (digits * Nat.pow 10 exponent.toNat) 1
  else
    ofRatio negative digits (Nat.pow 10 (-exponent).toNat)

/-- The number nearest to an integer. -/
def ofInt (n : Int) : Binary64 :=
  ofRatio (n < 0) n.natAbs 1

/-- The integer that a number is, when it is one. -/
def toInt? : Binary64 → Option Int
  | .nan => none
  | .infinity _ => none
  | .finite negative significand exponent =>
      let signed (n : Nat) : Int := if negative then -(n : Int) else n
      if 0 ≤ exponent then
        some (signed (significand * Nat.pow 2 exponent.toNat))
      else if significand % Nat.pow 2 (-exponent).toNat = 0 then
        some (signed (significand / Nat.pow 2 (-exponent).toNat))
      else
        none

end Binary64

end Blockwright
