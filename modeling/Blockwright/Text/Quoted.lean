import Blockwright.Text.Basic

/-!
# Quoted text

The double-quoted literal that all target languages share.  A backslash, a
double quote, a line feed and a carriage return are escaped; every other
character stands for itself.  `unquote` reads a literal from the front of a
text, and `unquote_quote_append` says that it reads back what `quote` wrote,
whatever follows.
-/

namespace Blockwright.Text

/-- What a character is written as inside a literal. -/
def escape (c : Char) : Text :=
  match c with
  | '\\' => ['\\', '\\']
  | '"' => ['\\', '"']
  | '\n' => ['\\', 'n']
  | '\r' => ['\\', 'r']
  | other => [other]

/-- The double-quoted literal of a text. -/
def quote (text : Text) : Text :=
  '"' :: (text.flatMap escape ++ ['"'])

/-- The contents of a literal whose opening quote has been read, and what follows it. -/
def unquoteTail : Text → Option (Text × Text)
  | [] => none
  | '"' :: rest => some ([], rest)
  | '\\' :: 'n' :: rest => (unquoteTail rest).map fun (text, more) => ('\n' :: text, more)
  | '\\' :: 'r' :: rest => (unquoteTail rest).map fun (text, more) => ('\r' :: text, more)
  | '\\' :: '"' :: rest => (unquoteTail rest).map fun (text, more) => ('"' :: text, more)
  | '\\' :: '\\' :: rest => (unquoteTail rest).map fun (text, more) => ('\\' :: text, more)
  | '\\' :: _ => none
  | c :: rest => (unquoteTail rest).map fun (text, more) => (c :: text, more)

/-- The text of the literal a text opens with, and what follows the literal. -/
def unquote : Text → Option (Text × Text)
  | '"' :: rest => unquoteTail rest
  | _ => none

theorem unquoteTail_plain
    (c : Char) (rest : Text) (notQuote : c ≠ '"') (notEscape : c ≠ '\\') :
    unquoteTail (c :: rest) =
      (unquoteTail rest).map fun (text, more) => (c :: text, more) := by
  rw [unquoteTail]
  · exact fun same => notQuote same
  all_goals intros; exact notEscape ‹_›

theorem unquoteTail_escape_append (c : Char) (rest : Text) :
    unquoteTail (escape c ++ rest) =
      (unquoteTail rest).map fun (text, more) => (c :: text, more) := by
  unfold escape
  split
  · simp [unquoteTail]
  · simp [unquoteTail]
  · simp [unquoteTail]
  · simp [unquoteTail]
  · next notEscape notQuote _ _ =>
      exact unquoteTail_plain c rest notQuote notEscape

/-- Reading a literal gives the text it was written for and leaves what follows. -/
theorem unquote_quote_append (text rest : Text) :
    unquote (quote text ++ rest) = some (text, rest) := by
  suffices step :
      unquoteTail (text.flatMap escape ++ '"' :: rest) = some (text, rest) by
    simpa [quote, unquote] using step
  induction text with
  | nil => simp [unquoteTail]
  | cons c others ih =>
      simp only [List.flatMap_cons, List.append_assoc, unquoteTail_escape_append, ih]
      rfl

end Blockwright.Text
