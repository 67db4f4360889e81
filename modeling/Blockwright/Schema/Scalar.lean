import Blockwright.Document.Json
import Blockwright.Schema.Violation

/-!
# Scalars in checked documents

What counts as a text, a truth value, an integer or a number in a project or a
settings file.  Truth values and numbers may also be written as texts.
-/

namespace Blockwright.Schema

/-- A text, as it is. -/
def text : Document → Checked String
  | .text value => .valid value
  | _ => complain .notText

/-- The spellings of the true value, in lower case. -/
def trueSpellings : List String := ["1", "on", "t", "true", "y", "yes"]

/-- The spellings of the false value, in lower case. -/
def falseSpellings : List String := ["0", "off", "f", "false", "n", "no"]

/-- An ASCII capital as a small letter; other characters as they are. -/
def lowerAscii (c : Char) : Char :=
  if 'A' ≤ c && c ≤ 'Z' then Char.ofNat (c.toNat + 32) else c

/-- The integers of 64 bits with a sign stand below this one. -/
def wordBound : Int := Nat.pow 2 63

/-- Whether an integer fits into 64 bits with a sign. -/
def fitsWord (n : Int) : Bool :=
  -wordBound ≤ n && n < wordBound

/-- A truth value, or a text or number that stands for one. -/
def bool : Document → Checked Bool
  | .bool value => .valid value
  | .integer 0 => .valid false
  | .integer 1 => .valid true
  | .integer n => complain (if fitsWord n then .unreadableBool else .notBool)
  | .number value =>
      match value.toInt? with
      | some 0 => .valid false
      | some 1 => .valid true
      | some n =>
          complain (if -wordBound < n && n < wordBound then .unreadableBool else .notBool)
      | none => complain .notBool
  | .text value =>
      let spelled := String.ofList (value.toList.map lowerAscii)
      if trueSpellings.contains spelled then .valid true
      else if falseSpellings.contains spelled then .valid false
      else complain .unreadableBool
  | _ => complain .notBool

/-- The characters that may surround a number in a text. -/
def isSpace (c : Char) : Bool :=
  [' ', '\t', '\n', '\x0b', '\x0c', '\r', '\x85', '\xa0', '\u1680', '\u2028', '\u2029',
    '\u202f', '\u205f', '\u3000'].contains c || ('\u2000' ≤ c && c ≤ '\u200a')

/-- A text without the spaces around it. -/
def trim (text : Text) : Text :=
  ((text.dropWhile isSpace).reverse.dropWhile isSpace).reverse

/-- A sign taken from the front of a text, minus or not, and the rest. -/
def signed : Text → Bool × Text
  | '-' :: rest => (true, rest)
  | '+' :: rest => (false, rest)
  | text => (false, text)

/-- A text without its underscores, each of which must stand between two digits. -/
def withoutUnderscores? : Text → Option Text
  | [] => some []
  | first :: '_' :: second :: rest =>
      if first.isDigit && second.isDigit then
        (withoutUnderscores? (second :: rest)).map (first :: ·)
      else
        none
  | c :: rest => if c = '_' then none else (withoutUnderscores? rest).map (c :: ·)

/-- The integer that a text spells, perhaps with a point and zeros after it. -/
def integerOf? (value : Text) : Option Int :=
  let (negative, unsigned) := signed (trim value)
  match Text.cut '.' unsigned with
  | (whole, fraction) =>
      let fractionFits :=
        match fraction with
        | none => true
        | some zeros => !zeros.isEmpty && zeros.all (· = '0')
      match withoutUnderscores? whole with
      | some digits =>
          if fractionFits && !digits.isEmpty && digits.all Char.isDigit then
            let size : Int := Json.decimalNumber digits
            some (if negative then -size else size)
          else
            none
      | none => none

/-- The longest text that is read as an integer. -/
def longestInteger : Nat := 4300

/-- An integer, or a truth value, number or text that stands for one. -/
def integer : Document → Checked Int
  | .integer n => .valid n
  | .bool value => .valid (if value then 1 else 0)
  | .number .nan => complain .notFinite
  | .number (.infinity _) => complain .notFinite
  | .number value =>
      match value.toInt? with
      | some n => if -wordBound < n && n < wordBound then .valid n else complain .oversized
      | none => complain .fractional
  | .text value =>
      if longestInteger < (trim value.toList).length then
        complain .oversized
      else
        match integerOf? value.toList with
        | some n => .valid n
        | none => complain .unreadableInteger
  | _ => complain .notInteger

/-- The words that spell numbers which no digits spell, in lower case. -/
def wordNumber? (negative : Bool) (unsigned : Text) : Option Binary64 :=
  let spelled := String.ofList (unsigned.map lowerAscii)
  if spelled = "inf" || spelled = "infinity" then some (.infinity negative)
  else if spelled = "nan" then some .nan
  else none

/-- The exponent that ends a number: nothing, or a letter, perhaps a sign, and digits. -/
def exponentOf? : Text → Option Int
  | [] => some 0
  | letter :: rest =>
      let (negative, digits) := signed rest
      if (letter = 'e' || letter = 'E') && !digits.isEmpty && digits.all Char.isDigit then
        let size : Int := Json.decimalNumber digits
        some (if negative then -size else size)
      else
        none

/-- The number that digits with at most one point and perhaps an exponent spell. -/
def digitNumber? (negative : Bool) (unsigned : Text) : Option Binary64 :=
  let (whole, rest) := Json.takeDigits unsigned
  let (places, rest) :=
    match rest with
    | '.' :: more => Json.takeDigits more
    | other => ([], other)
  if whole.isEmpty && places.isEmpty then
    none
  else
    (exponentOf? rest).map fun exponent =>
      Binary64.ofDecimal negative (Json.decimalNumber (whole ++ places))
        (exponent - places.length)

/-- A text without its underscores, none of which may stand at an end or next to another. -/
def withoutSeparators? (text : Text) : Option Text :=
  let doubled := (text.zip (text.drop 1)).any fun (first, second) => first = '_' && second = '_'
  if text.head? = some '_' || text.getLast? = some '_' || doubled then
    none
  else
    some (text.filter (· != '_'))

/-- The number that a text spells. -/
def numberOf? (value : Text) : Option Binary64 :=
  (withoutSeparators? value).bind fun bare =>
    let (negative, unsigned) := signed (trim bare)
    (wordNumber? negative unsigned).or (digitNumber? negative unsigned)

/-- A number, or a truth value or text that stands for one. -/
def number : Document → Checked Binary64
  | .number value => .valid value
  | .bool value => .valid (Binary64.ofInt (if value then 1 else 0))
  | .integer n =>
      match Binary64.ofInt n with
      | .infinity _ => complain .notNumber
      | value => .valid value
  | .text value =>
      match numberOf? value.toList with
      | some number => .valid number
      | none => complain .unreadableNumber
  | _ => complain .notNumber

end Blockwright.Schema
