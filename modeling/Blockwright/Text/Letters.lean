import Blockwright.Text.Basic

/-!
# Letter case

Upper and lower case over the letters of the ASCII and Latin-1 blocks; characters
outside these blocks are kept as they are, whether they have another case or not.
Two letters leave the block when they are raised, and the sharp s becomes two
letters.
-/

namespace Blockwright.Text

/-- An ASCII letter `A` to `Z`. -/
def isUpperAscii (c : Char) : Bool :=
  'A' ≤ c && c ≤ 'Z'

/-- An ASCII letter `a` to `z`. -/
def isLowerAscii (c : Char) : Bool :=
  'a' ≤ c && c ≤ 'z'

/-- An ASCII digit. -/
def isDigitAscii (c : Char) : Bool :=
  '0' ≤ c && c ≤ '9'

/-- The lower-case form of a character. -/
def lowerChar (c : Char) : Char :=
  if isUpperAscii c || ('\xc0' ≤ c && c ≤ '\xde' && c != '\xd7') then
    Char.ofNat (c.toNat + 32)
  else
    c

/-- The form of a character at the head of a capitalised word. -/
def titleChar (c : Char) : Text :=
  if isLowerAscii c || ('\xe0' ≤ c && c ≤ '\xfe' && c != '\xf7') then
    [Char.ofNat (c.toNat - 32)]
  else if c = '\xff' then
    ['\u0178']
  else if c = '\xb5' then
    ['\u039c']
  else if c = '\xdf' then
    ['S', 's']
  else
    [c]

/-- A text in lower case. -/
def lower (text : Text) : Text :=
  text.map lowerChar

/-- A word with its first letter raised and the others lowered. -/
def capitalize : Text → Text
  | [] => []
  | c :: rest => titleChar c ++ lower rest

@[simp]
theorem length_lower (text : Text) : (lower text).length = text.length := by
  simp [lower]

end Blockwright.Text
