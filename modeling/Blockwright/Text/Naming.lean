import Blockwright.Text.Letters

/-!
# Naming conventions

The names of generated members are built from tags of hyphenated words.  Each
target language joins the words in its own way, and default variable names are
kept in camel case and broken at their humps where a language writes
underscores.
-/

namespace Blockwright.Text

/-- The words of a hyphenated tag. -/
def words (tag : Text) : List Text :=
  List.splitOn '-' tag

/-- Every word capitalised: `is-even` becomes `IsEven`. -/
def pascalCase (tag : Text) : Text :=
  (words tag).flatMap capitalize

/-- Every word but the first capitalised: `is-even` becomes `isEven`. -/
def camelCase (tag : Text) : Text :=
  match words tag with
  | [] => []
  | first :: others => first ++ others.flatMap capitalize

/-- The words of a tag with underscores between them: `is-even` becomes `is_even`. -/
def underscored (tag : Text) : Text :=
  tag.map fun c => if c = '-' then '_' else c

/-- The words of a tag capitalised and set apart by spaces: `is-even` becomes `Is Even`. -/
def titleWords (tag : Text) : Text :=
  List.intercalate [' '] ((words tag).map capitalize)

/-- A text with an underscore before each capital that follows a small letter or a digit. -/
def breakHumps : Text → Text
  | first :: second :: rest =>
      if (isLowerAscii first || isDigitAscii first) && isUpperAscii second then
        first :: '_' :: breakHumps (second :: rest)
      else
        first :: breakHumps (second :: rest)
  | text => text

/-- A camel-case name in lower case with underscores: `myString` becomes `my_string`. -/
def snakeCase (name : Text) : Text :=
  lower (breakHumps name)

end Blockwright.Text
