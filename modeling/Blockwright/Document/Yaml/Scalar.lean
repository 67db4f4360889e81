import Blockwright.Document.Json

/-!
# Plain YAML scalars

A scalar written without quotes is read by its spelling: as null, as a truth
value, as an integer of base two, eight, ten or sixteen, as a floating-point
number, and otherwise as text.  A floating-point number needs a point in its
mantissa, and its exponent needs a sign.
-/

namespace Blockwright.Yaml

/-- The spellings of null. -/
def nullWords : List String := ["", "~", "null", "Null", "NULL"]

/-- The spellings of the true value. -/
def trueWords : List String :=
  ["yes", "Yes", "YES", "true", "True", "TRUE", "on", "On", "ON"]

/-- The spellings of the false value. -/
def falseWords : List String :=
  ["no", "No", "NO", "false", "False", "FALSE", "off", "Off", "OFF"]

/-- A sign taken from the front of a text, minus or not, and the rest. -/
def takeSign : Text → Bool × Text
  | '-' :: rest => (true, rest)
  | '+' :: rest => (false, rest)
  | text => (false, text)

/-- The number that digits of a base spell, underscores apart; there must be a digit. -/
def digitsIn? (base : Nat) (text : Text) : Option Nat :=
  match text.filter (· != '_') with
  | [] => none
  | digits =>
      digits.foldlM
        (fun total c => (Json.hexDigit? c).bind fun digit =>
          if digit < base then some (total * base + digit) else none)
        0

/-- The magnitude that an unsigned integer spells. -/
def magnitude? : Text → Option Nat
  | '0' :: 'b' :: digits => digitsIn? 2 digits
  | '0' :: 'x' :: digits => digitsIn? 16 digits
  | '0' :: digits => if digits.isEmpty then some 0 else digitsIn? 8 ('0' :: digits)
  | c :: digits => if c.isDigit then digitsIn? 10 (c :: digits) else none
  | [] => none

/-- The integer that a text spells. -/
def integer? (text : Text) : Option Int :=
  let (negative, unsigned) := takeSign text
  (magnitude? unsigned).map fun size => if negative then -(size : Int) else size

/-- The exponent that ends a floating-point number: nothing, or a letter, a sign and digits. -/
def exponent? : Text → Option Int
  | [] => some 0
  | letter :: sign :: digits =>
      if (letter = 'e' || letter = 'E') && (sign = '+' || sign = '-') &&
          !digits.isEmpty && digits.all Char.isDigit then
        let size : Int := Json.decimalNumber digits
        some (if sign = '-' then -size else size)
      else
        none
  | _ => none

/-- The number of an unsigned mantissa with a point, followed by an exponent. -/
def mantissa? (negative : Bool) (text : Text) : Option Binary64 :=
  let isPlace (c : Char) : Bool := c.isDigit || c = '_'
  let whole := text.takeWhile isPlace
  match text.dropWhile isPlace with
  | '.' :: rest =>
      let places := (rest.takeWhile isPlace).filter Char.isDigit
      (exponent? (rest.dropWhile isPlace)).map fun exponent =>
        Binary64.ofDecimal negative (Json.decimalNumber (whole.filter Char.isDigit ++ places))
          (exponent - places.length)
  | _ => none

/-- The floating-point number that a text spells. -/
def number? (text : Text) : Option Binary64 :=
  let (negative, unsigned) := takeSign text
  match unsigned with
  | '.' :: rest =>
      if [".inf", ".Inf", ".INF"].any (·.toList = unsigned) then
        some (.infinity negative)
      else if [".nan", ".NaN", ".NAN"].any (·.toList = text) then
        some .nan
      else if unsigned = text && (rest.head?.map Char.isDigit).getD false then
        mantissa? false text
      else
        none
  | c :: _ => if c.isDigit then mantissa? negative unsigned else none
  | [] => none

/-- The value of a plain scalar. -/
def resolve (scalar : Text) : Document :=
  let spelled := String.ofList scalar
  if nullWords.contains spelled then .null
  else if trueWords.contains spelled then .bool true
  else if falseWords.contains spelled then .bool false
  else
    match integer? scalar, number? scalar with
    | some value, _ => .integer value
    | none, some value => .number value
    | none, none => .text spelled

end Blockwright.Yaml
