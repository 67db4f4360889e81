import Blockwright.Text.Inspected

/-!
# Reading bytes as UTF-8

Strict decoding: overlong forms, surrogates and code points beyond the last
plane are refused.  A refusal names the offending bytes: the first byte that
cannot start a character, the start of a character broken by a byte that
cannot continue it, or the start of a character that the text ends in.
-/

namespace Blockwright.Utf8

/-- Why bytes are not UTF-8. -/
inductive Cause where
  /-- A byte that starts no character. -/
  | invalidStart
  /-- A started character met a byte that does not continue it. -/
  | invalidContinuation
  /-- The bytes end inside a character. -/
  | unexpectedEnd
  deriving DecidableEq, Repr

/-- The wording of a cause. -/
def Cause.message : Cause → String
  | .invalidStart => "invalid start byte"
  | .invalidContinuation => "invalid continuation byte"
  | .unexpectedEnd => "unexpected end of data"

/-- A refusal: its cause, the offset of the first offending byte, that byte, and how many offend. -/
structure Fault where
  cause : Cause
  offset : Nat
  first : UInt8
  count : Nat
  deriving DecidableEq, Repr

/-- The report of a refusal. -/
def Fault.message (fault : Fault) : Text :=
  let place : Text :=
    if fault.count = 1 then
      "byte 0x" ++ Text.hexadecimal 2 fault.first.toNat ++ " in position " ++
        toString fault.offset
    else
      "bytes in position " ++ toString fault.offset ++ "-" ++
        toString (fault.offset + fault.count - 1)
  "'utf-8' codec can't decode " ++ place ++ ": " ++ fault.cause.message

/-- How many bytes follow a first byte, and the range of the byte right after it. -/
structure Lead where
  following : Nat
  low : UInt8
  high : UInt8

/-- The lead that a byte is, when it starts a character of more than one byte. -/
def lead? (byte : UInt8) : Option Lead :=
  if 0xc2 ≤ byte && byte ≤ 0xdf then some ⟨1, 0x80, 0xbf⟩
  else if byte = 0xe0 then some ⟨2, 0xa0, 0xbf⟩
  else if byte = 0xed then some ⟨2, 0x80, 0x9f⟩
  else if 0xe1 ≤ byte && byte ≤ 0xef then some ⟨2, 0x80, 0xbf⟩
  else if byte = 0xf0 then some ⟨3, 0x90, 0xbf⟩
  else if 0xf1 ≤ byte && byte ≤ 0xf3 then some ⟨3, 0x80, 0xbf⟩
  else if byte = 0xf4 then some ⟨3, 0x80, 0x8f⟩
  else none

/-- How many of the bytes that a lead expects stand at the front. -/
def continuing (lead : Lead) (bytes : List UInt8) : Nat :=
  match bytes.take lead.following with
  | [] => 0
  | second :: others =>
      if lead.low ≤ second && second ≤ lead.high then
        1 + (others.takeWhile fun byte => 0x80 ≤ byte && byte ≤ 0xbf).length
      else
        0

/-- The character of a lead byte and its continuation bytes. -/
def assemble (lead : Lead) (first : UInt8) (others : List UInt8) : Char :=
  let top := first.toNat % Nat.pow 2 (6 - lead.following)
  Char.ofNat (others.foldl (fun code byte => code * 64 + byte.toNat % 64) top)

/-- The text of the bytes from an offset on. -/
def decodeFrom (offset : Nat) : List UInt8 → Except Fault Text
  | [] => .ok []
  | first :: rest =>
      if first < 0x80 then
        (Char.ofNat first.toNat :: ·) <$> decodeFrom (offset + 1) rest
      else
        match lead? first with
        | none => .error ⟨.invalidStart, offset, first, 1⟩
        | some lead =>
            let found := continuing lead rest
            if found = lead.following then
              (assemble lead first (rest.take found) :: ·) <$>
                decodeFrom (offset + 1 + found) (rest.drop found)
            else if found = rest.length then
              .error ⟨.unexpectedEnd, offset, first, found + 1⟩
            else
              .error ⟨.invalidContinuation, offset, first, found + 1⟩
  termination_by bytes => bytes.length
  decreasing_by all_goals simp only [List.length_cons, List.length_drop]; omega

/-- The text that bytes encode. -/
def decode (bytes : List UInt8) : Except Fault Text :=
  decodeFrom 0 bytes

/-- The bytes of a text. -/
def encode (text : Text) : List UInt8 :=
  text.flatMap String.utf8EncodeChar

end Blockwright.Utf8
