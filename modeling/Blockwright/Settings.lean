/-!
# Settings

The choices that shape generated files: the width of an indentation level, and
whether Java utilities are written where they are used instead of once for the
class.
-/

namespace Blockwright

/-- The settings of a generator. -/
structure Settings where
  indentWidth : Nat := 4
  inlineUtilities : Bool := false
  /-- A level is at least one space wide. -/
  one_le_indentWidth : 1 ≤ indentWidth := by decide

/-- The settings that apply when none are given. -/
def Settings.standard : Settings := {}

/-- The text of one indentation level. -/
def Settings.indentText (settings : Settings) : List Char :=
  List.replicate settings.indentWidth ' '

end Blockwright
