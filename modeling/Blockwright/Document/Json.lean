import Blockwright.Document.Basic

/-!
# JSON

A strict reader with three numbers beyond the standard, `NaN` and the two
infinities.  A refusal says what was expected and where: the offset of a
character, from which its line and column follow.  While reading, a position is
kept as the number of characters that are left.
-/

namespace Blockwright.Json

/-- What is wrong with a text that is not JSON. -/
inductive Cause where
  | value
  | propertyName
  | colon
  | comma
  | extraData
  | unterminatedString
  | controlCharacter
  | escape
  | unicodeEscape
  | byteOrderMark
  deriving DecidableEq, Repr

/-- The wording of a cause. -/
def Cause.message : Cause → String
  | .value => "Expecting value"
  | .propertyName => "Expecting property name enclosed in double quotes"
  | .colon => "Expecting ':' delimiter"
  | .comma => "Expecting ',' delimiter"
  | .extraData => "Extra data"
  | .unterminatedString => "Unterminated string starting at"
  | .controlCharacter => "Invalid control character at"
  | .escape => "Invalid \\escape"
  | .unicodeEscape => "Invalid \\uXXXX escape"
  | .byteOrderMark => "Unexpected UTF-8 BOM (decode using utf-8-sig)"

/-- A refusal: its cause, and the line, column and offset it points at. -/
structure Fault where
  cause : Cause
  line : Nat
  column : Nat
  offset : Nat
  deriving DecidableEq, Repr

/-- The report of a refusal. -/
def Fault.message (fault : Fault) : Text :=
  fault.cause.message ++ ": line " ++ toString fault.line ++ " column " ++
    toString fault.column ++ " (char " ++ toString fault.offset ++ ")"

/-- A refusal inside a text, with the number of characters left where it points. -/
structure Trouble where
  cause : Cause
  left : Nat

/-- A refusal placed in the whole text. -/
def Trouble.inText (trouble : Trouble) (text : Text) : Fault :=
  let offset := text.length - trouble.left
  let before := text.take offset
  { cause := trouble.cause
    line := before.count '\n' + 1
    column := (before.reverse.takeWhile (· != '\n')).length + 1
    offset := offset }

/-- A refusal that points at the front of a text. -/
def refuse {α : Type} (cause : Cause) (rest : Text) : Except Trouble (α × Text) :=
  .error ⟨cause, rest.length⟩

/-- A text without the blanks at its front. -/
def skipBlanks (text : Text) : Text :=
  text.dropWhile fun c => c = ' ' || c = '\t' || c = '\n' || c = '\r'

/-- The value of a hexadecimal digit. -/
def hexDigit? (c : Char) : Option Nat :=
  if '0' ≤ c && c ≤ '9' then some (c.toNat - 48)
  else if 'a' ≤ c && c ≤ 'f' then some (c.toNat - 87)
  else if 'A' ≤ c && c ≤ 'F' then some (c.toNat - 55)
  else none

/-- The number that hexadecimal digits spell. -/
def hexNumber? (digits : Text) : Option Nat :=
  digits.foldlM (fun total c => (hexDigit? c).map (total * 16 + ·)) 0

/--
The character of a code unit.  A lone surrogate is no character, and no text of the library
holds one: here it becomes the replacement character, where another reader may refuse it.
-/
def charOfUnit (unit : Nat) : Char :=
  if 0xd800 ≤ unit && unit ≤ 0xdfff then '\ufffd' else Char.ofNat unit

/-- The character of a one-letter escape. -/
def letterEscape? : Char → Option Char
  | '"' => some '"'
  | '\\' => some '\\'
  | '/' => some '/'
  | 'b' => some '\x08'
  | 'f' => some '\x0c'
  | 'n' => some '\n'
  | 'r' => some '\r'
  | 't' => some '\t'
  | _ => none

/--
The code unit of a unicode escape whose `u` opens the text.  Something must
follow the four digits, because the string they stand in is not closed yet.
-/
def codeUnit (text : Text) : Except Trouble Nat :=
  let digits := (text.drop 1).take 4
  if text.length < 6 then
    .error ⟨.unicodeEscape, text.length⟩
  else
    match hexNumber? digits with
    | some unit => .ok unit
    | none => .error ⟨.unicodeEscape, text.length⟩

/--
The character of the escape that a text opens with, and the number of
characters that the escape takes.  Two escapes in a row that spell a surrogate
pair are one character.
-/
def readEscape (opening : Nat) (text : Text) : Except Trouble (Char × Nat) :=
  match text.drop 1 with
  | [] => .error ⟨.unterminatedString, opening⟩
  | 'u' :: rest => do
      let unit ← codeUnit ('u' :: rest)
      let after := rest.drop 4
      if 0xd800 ≤ unit && unit ≤ 0xdbff && 7 ≤ after.length &&
          after.take 2 = ['\\', 'u'] then
        let second ← codeUnit (after.drop 1)
        if 0xdc00 ≤ second && second ≤ 0xdfff then
          return (Char.ofNat (0x10000 + (unit - 0xd800) * 0x400 + (second - 0xdc00)), 12)
        else
          return (charOfUnit unit, 6)
      else
        return (charOfUnit unit, 6)
  | c :: _ =>
      match letterEscape? c with
      | some char => .ok (char, 2)
      | none => .error ⟨.escape, text.length⟩

/--
The rest of a string whose opening quote has been read.  The opening quote's
position is kept for the report of a string that is not closed, and what has
been read so far is kept in reverse.
-/
def readString (opening : Nat) (collected : Text) : Text → Except Trouble (Text × Text)
  | [] => .error ⟨.unterminatedString, opening⟩
  | c :: rest =>
      if c = '"' then
        .ok (collected.reverse, rest)
      else if c = '\\' then
        match readEscape opening (c :: rest) with
        | .error trouble => .error trouble
        | .ok (char, taken) =>
            readString opening (char :: collected) (rest.drop (taken - 1))
      else if c.toNat < 0x20 then
        .error ⟨.controlCharacter, rest.length + 1⟩
      else
        readString opening (c :: collected) rest
  termination_by text => text.length
  decreasing_by all_goals simp only [List.length_cons, List.length_drop]; omega

/-- The number that decimal digits spell. -/
def decimalNumber (digits : Text) : Nat :=
  digits.foldl (fun total c => total * 10 + (c.toNat - 48)) 0

/-- The digits at the front of a text, and the rest. -/
def takeDigits (text : Text) : Text × Text :=
  (text.takeWhile Char.isDigit, text.dropWhile Char.isDigit)

/-- The fraction at the front of a text: the digits after a point, at least one. -/
def takeFraction (text : Text) : Option Text × Text :=
  match text with
  | '.' :: rest =>
      match takeDigits rest with
      | ([], _) => (none, text)
      | (digits, after) => (some digits, after)
  | _ => (none, text)

/-- The exponent at the front of a text: a letter, perhaps a sign, and at least one digit. -/
def takeExponent (text : Text) : Option Int × Text :=
  match text with
  | c :: rest =>
      if c = 'e' || c = 'E' then
        let (negative, unsigned) :=
          match rest with
          | '-' :: others => (true, others)
          | '+' :: others => (false, others)
          | others => (false, others)
        match takeDigits unsigned with
        | ([], _) => (none, text)
        | (digits, after) =>
            let size : Int := decimalNumber digits
            (some (if negative then -size else size), after)
      else
        (none, text)
  | [] => (none, text)

/-- A number at the front of a text; it is an integer unless it has a fraction or an exponent. -/
def readNumber (text : Text) : Except Trouble (Document × Text) :=
  let (negative, unsigned) :=
    match text with
    | '-' :: rest => (true, rest)
    | other => (false, other)
  let (whole, rest) :=
    match unsigned with
    | '0' :: others => (['0'], others)
    | other => takeDigits other
  if whole.isEmpty then
    refuse .value text
  else
    match takeFraction rest with
    | (fraction, afterFraction) =>
        match takeExponent afterFraction with
        | (exponent, after) =>
            if fraction.isNone && exponent.isNone then
              let size : Int := decimalNumber whole
              .ok (.integer (if negative then -size else size), after)
            else
              let places := fraction.getD []
              let value := Binary64.ofDecimal negative (decimalNumber (whole ++ places))
                (exponent.getD 0 - places.length)
              .ok (.number value, after)

/-- The words that are values, and what they stand for. -/
def wordValues : List (String × Document) := [
  ("null", .null),
  ("true", .bool true),
  ("false", .bool false),
  ("NaN", .number .nan),
  ("Infinity", .number (.infinity false)),
  ("-Infinity", .number (.infinity true))]

/-- The word value at the front of a text. -/
def wordValue? (text : Text) : Option (Document × Text) :=
  wordValues.findSome? fun (word, value) =>
    if word.toList.isPrefixOf text then some (value, text.drop word.length) else none

mutual

/--
A value at the front of a text.  One unit of fuel goes into each value and one
into each item that holds it, so that twice the length of the text is enough.
-/
def readValue : Nat → Text → Except Trouble (Document × Text)
  | 0, text => refuse .value text
  | fuel + 1, text =>
      match text with
      | '"' :: rest => do
          let (string, after) ← readString text.length [] rest
          return (.text (String.ofList string), after)
      | '{' :: rest => do
          let (entries, after) ← readEntries fuel [] (skipBlanks rest)
          return (Document.ofEntries entries, after)
      | '[' :: rest =>
          match skipBlanks rest with
          | ']' :: after => .ok (.list [], after)
          | items => do
              let (items, after) ← readItems fuel [] items
              return (.list items, after)
      | other =>
          match wordValue? other with
          | some found => .ok found
          | none => readNumber other

/-- The items of a list up to its closing bracket, with those already read in reverse. -/
def readItems : Nat → List Document → Text → Except Trouble (List Document × Text)
  | 0, _, text => refuse .value text
  | fuel + 1, collected, text => do
      let (item, after) ← readValue fuel text
      match skipBlanks after with
      | ']' :: rest => return ((item :: collected).reverse, rest)
      | ',' :: rest => readItems fuel (item :: collected) (skipBlanks rest)
      | rest => refuse .comma rest

/-- The entries of a mapping up to its closing brace, with those already read in reverse. -/
def readEntries :
    Nat → List (Document × Document) → Text →
      Except Trouble (List (Document × Document) × Text)
  | 0, _, text => refuse .propertyName text
  | fuel + 1, collected, text =>
      match text with
      | '}' :: rest =>
          if collected.isEmpty then .ok ([], rest) else refuse .propertyName text
      | '"' :: rest => do
          let (key, afterKey) ← readString text.length [] rest
          match skipBlanks afterKey with
          | ':' :: valueText => do
              let (value, afterValue) ← readValue fuel (skipBlanks valueText)
              let entries := (.text (String.ofList key), value) :: collected
              match skipBlanks afterValue with
              | '}' :: more => return (entries.reverse, more)
              | ',' :: more => readEntries fuel entries (skipBlanks more)
              | more => refuse .comma more
          | more => refuse .colon more
      | other => refuse .propertyName other

end

/-- The document that a JSON text holds. -/
def read (text : Text) : Except Fault Document :=
  let outcome : Except Trouble Document :=
    match text with
    | '\ufeff' :: _ => .error ⟨.byteOrderMark, text.length⟩
    | _ => do
        let (document, after) ← readValue (2 * text.length + 1) (skipBlanks text)
        match skipBlanks after with
        | [] => return document
        | rest => .error ⟨.extraData, rest.length⟩
  outcome.mapError (·.inText text)

end Blockwright.Json
