import Blockwright.Number.Binary64
import Blockwright.Text.Basic

/-!
# The shortest decimal text of a number

Of all decimals that round to a given floating-point number, the text shows one
with the fewest digits, and of those the nearest.  The search is exact: for one
digit, two digits and so on it looks at the two neighbours of the number on the
decimal grid of that many digits, until one of them rounds back.
-/

namespace Blockwright.Binary64

/-- A decimal `digits * 10 ^ exponent`. -/
structure Decimal where
  digits : Nat
  exponent : Int
  deriving DecidableEq, Repr

/--
The reals that round to a positive number, in units of a common denominator:
the lower end, the number itself and the upper end.  The ends belong to the
interval exactly when the significand is even.
-/
structure Interval where
  lower : Nat
  value : Nat
  upper : Nat
  denominator : Nat
  closed : Bool

/-- The interval of the reals that round to `significand * 2 ^ exponent`. -/
def intervalOf (significand : Nat) (exponent : Int) : Interval :=
  let belowGap := if significand = Nat.pow 2 52 && leastExponent < exponent then 1 else 2
  let units : Int := exponent - 2
  let factor := Nat.pow 2 units.toNat
  { lower := (4 * significand - belowGap) * factor
    value := 4 * significand * factor
    upper := (4 * significand + 2) * factor
    denominator := Nat.pow 2 (-units).toNat
    closed := significand % 2 = 0 }

/-- The power of ten at or below a positive ratio. -/
def decimalMagnitude (numerator denominator : Nat) : Int :=
  if denominator ≤ numerator then
    ((Nat.toDigits 10 (numerator / denominator)).length : Int) - 1
  else
    let places := (Nat.toDigits 10 (denominator / numerator)).length
    if denominator ≤ numerator * Nat.pow 10 (places - 1) then
      1 - (places : Int)
    else
      -(places : Int)

/-- Whether a decimal rounds to the number of an interval. -/
def Interval.holds (interval : Interval) (decimal : Decimal) : Bool :=
  let top := decimal.digits * interval.denominator * Nat.pow 10 decimal.exponent.toNat
  let scale := Nat.pow 10 (-decimal.exponent).toNat
  if interval.closed then
    interval.lower * scale ≤ top && top ≤ interval.upper * scale
  else
    interval.lower * scale < top && top < interval.upper * scale

/-- The nearer of the neighbours on the grid of a power of ten, of those that round back. -/
def Interval.onGrid? (interval : Interval) (exponent : Int) : Option Decimal :=
  let top := interval.value * Nat.pow 10 (-exponent).toNat
  let bottom := interval.denominator * Nat.pow 10 exponent.toNat
  let below : Decimal := ⟨top / bottom, exponent⟩
  let above : Decimal := ⟨top / bottom + 1, exponent⟩
  let remainder := top % bottom
  let belowIsNearer :=
    2 * remainder < bottom || (2 * remainder = bottom && below.digits % 2 = 0)
  match interval.holds below && below.digits != 0, interval.holds above with
  | true, true => some (if belowIsNearer then below else above)
  | true, false => some below
  | false, true => some above
  | false, false => none

/-- The first grid, from a number of digits on, that has a decimal rounding back. -/
def Interval.search (interval : Interval) (magnitude : Int) : Nat → Nat → Decimal
  | 0, digits => ⟨interval.value / interval.denominator, digits⟩
  | fuel + 1, digits =>
      match interval.onGrid? (magnitude - digits + 1) with
      | some decimal => decimal
      | none => interval.search magnitude fuel (digits + 1)

/-- A decimal without trailing zeros. -/
def Decimal.trimmed (decimal : Decimal) : Nat → Decimal
  | 0 => decimal
  | fuel + 1 =>
      if decimal.digits != 0 && decimal.digits % 10 = 0 then
        Decimal.trimmed ⟨decimal.digits / 10, decimal.exponent + 1⟩ fuel
      else
        decimal

/-- The shortest decimal that rounds to a positive number. -/
def shortest (significand : Nat) (exponent : Int) : Decimal :=
  let interval := intervalOf significand exponent
  let magnitude := decimalMagnitude interval.value interval.denominator
  (interval.search magnitude 17 1).trimmed 17

/-- Exponents from this one on, up to `scientificFrom`, are written positionally. -/
def positionalFrom : Int := -4

/-- The first large exponent that is written after an `e`. -/
def scientificFrom : Int := 16

/-- A decimal with its point among the digits, and a zero after a point that would end it. -/
def positional (digits : Text) (magnitude : Int) : Text :=
  if magnitude < 0 then
    ['0', '.'] ++ List.replicate (-magnitude - 1).toNat '0' ++ digits
  else
    let whole := magnitude.toNat + 1
    if digits.length ≤ whole then
      digits ++ List.replicate (whole - digits.length) '0' ++ ['.', '0']
    else
      digits.take whole ++ '.' :: digits.drop whole

/-- A decimal with its point after the first digit and a signed exponent of two places or more. -/
def scientific (digits : Text) (magnitude : Int) : Text :=
  let exponent := Nat.toDigits 10 magnitude.natAbs
  let fraction := if digits.length ≤ 1 then [] else '.' :: digits.drop 1
  digits.take 1 ++ fraction ++ ['e', if magnitude < 0 then '-' else '+'] ++
    List.replicate (2 - exponent.length) '0' ++ exponent

/-- The text of a number: the shortest digits that read back as it. -/
def text : Binary64 → Text
  | .nan => "nan"
  | .infinity negative => if negative then "-inf" else "inf"
  | .finite negative significand exponent =>
      let magnitudeText : Text :=
        if significand = 0 then
          "0.0"
        else
          let decimal := shortest significand exponent
          let digits := Nat.toDigits 10 decimal.digits
          let magnitude := decimal.exponent + digits.length - 1
          if positionalFrom ≤ magnitude && magnitude < scientificFrom then
            positional digits magnitude
          else
            scientific digits magnitude
      if negative then '-' :: magnitudeText else magnitudeText

end Blockwright.Binary64
