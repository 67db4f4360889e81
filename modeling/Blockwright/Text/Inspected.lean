import Blockwright.Text.Unprintable

/-!
# Inspected text

A text as it is shown to a reader who must see every character of it: between
quotes, with the unprintable characters written by their codes.  Single quotes
are used unless the text holds one and holds no double quote.
-/

namespace Blockwright.Text

/-- The lower-case hexadecimal digits of a number, on at least the given number of places. -/
def hexadecimal (places n : Nat) : Text :=
  let digits := Nat.toDigits 16 n
  List.replicate (places - digits.length) '0' ++ digits

/-- A character by the shortest of the three code forms that can hold it. -/
def codeForm (c : Char) : Text :=
  if c.toNat ≤ 0xff then
    ['\\', 'x'] ++ hexadecimal 2 c.toNat
  else if c.toNat ≤ 0xffff then
    ['\\', 'u'] ++ hexadecimal 4 c.toNat
  else
    ['\\', 'U'] ++ hexadecimal 8 c.toNat

/-- What a character is shown as between the given quotes. -/
def inspectChar (mark c : Char) : Text :=
  if c = mark || c = '\\' then
    ['\\', c]
  else if c = '\n' then
    ['\\', 'n']
  else if c = '\r' then
    ['\\', 'r']
  else if c = '\t' then
    ['\\', 't']
  else if isUnprintable c then
    codeForm c
  else
    [c]

/-- The quote put around an inspected text. -/
def inspectionMark (text : Text) : Char :=
  if text.contains '\'' && !text.contains '"' then '"' else '\''

/-- A text between quotes with every character visible. -/
def inspect (text : Text) : Text :=
  let mark := inspectionMark text
  mark :: (text.flatMap (inspectChar mark) ++ [mark])

end Blockwright.Text
