import Blockwright.Language
import Blockwright.Palette.Tag
import Blockwright.Text.Naming

/-!
# Default properties

What an element's property is worth when the project leaves it open.  One table
serves all languages; entries that are spelled differently from language to
language are marked as keywords or as variable names, and the few that differ
by more than spelling are overridden for their language.
-/

namespace Blockwright

/-- A literal that languages spell in their own way. -/
inductive Keyword where
  | truth
  | falsity
  | null
  deriving DecidableEq, Repr

/-- The spelling of a keyword in a language. -/
def Keyword.spell (language : Language) : Keyword → Text
  | .truth => if language = .python then "True" else "true"
  | .falsity => if language = .python then "False" else "false"
  | .null => if language = .python then "None" else "null"

/-- A default value. -/
inductive Default where
  /-- A text that all languages share. -/
  | text (value : String)
  /-- A literal spelled by the language. -/
  | keyword (value : Keyword)
  /-- A variable name in camel case, which Python writes in snake case. -/
  | identifier (name : String)
  deriving DecidableEq, Repr

/-- The spelling of a default value in a language. -/
def Default.spell (language : Language) : Default → Text
  | .text value => value
  | .keyword value => value.spell language
  | .identifier name => if language = .python then Text.snakeCase name else name

/-- The properties of an element type and their default values. -/
abbrev Defaults := List (String × Default)

/-- The default value of a property. -/
def Defaults.get? (defaults : Defaults) (property : Text) : Option Default :=
  (defaults.find? fun (name, _) => name.toList = property).map (·.2)

/-- The properties of a statement. -/
def Statement.defaults : Statement → Defaults
  | .writeLine => [("message", .text "")]
  | .write => [("message", .text "")]
  | .debugPrint => [("message", .text "")]
  | .traceWrite => [("message", .text "")]
  | .ternary => [
      ("condition", .keyword .truth),
      ("trueValue", .text "value1"),
      ("falseValue", .text "value2")]
  | .variable => [
      ("type", .text "var"),
      ("name", .identifier "myVariable"),
      ("value", .text "\"\"")]
  | .constant => [("type", .text "int"), ("name", .text "MY_CONSTANT"), ("value", .text "0")]
  | .array => [("type", .text "int"), ("name", .identifier "myArray"), ("size", .text "10")]
  | .list => [("type", .text "int"), ("name", .identifier "myList")]
  | .dictionary => [
      ("keyType", .text "string"),
      ("valueType", .text "int"),
      ("name", .identifier "myDict")]
  | .returnValue => [("value", .keyword .null)]
  | .string => [("name", .identifier "myString"), ("value", .text "\"\"")]
  | .int => [("name", .identifier "myInt"), ("value", .text "0")]
  | .long => [("name", .identifier "myLong"), ("value", .text "0L")]
  | .float => [("name", .identifier "myFloat"), ("value", .text "0.0f")]
  | .double => [("name", .identifier "myDouble"), ("value", .text "0.0")]
  | .decimal => [("name", .identifier "myDecimal"), ("value", .text "0.0m")]
  | .bool => [("name", .identifier "myBool"), ("value", .keyword .falsity)]
  | .char => [("name", .identifier "myChar"), ("value", .text "'a'")]
  | .byte => [("name", .identifier "myByte"), ("value", .text "0")]
  | .short => [("name", .identifier "myShort"), ("value", .text "0")]
  | .squareRoot => [("value", .text "16")]
  | .power => [("base", .text "2"), ("exponent", .text "3")]
  | .absolute => [("type", .text "int"), ("value", .text "-5")]
  | .minimum => [("type", .text "int"), ("value1", .text "5"), ("value2", .text "10")]
  | .maximum => [("type", .text "int"), ("value1", .text "5"), ("value2", .text "10")]
  | .random => [("min", .text "1"), ("max", .text "100")]
  | .stringLength => [("variable", .identifier "myString")]
  | .substring => [
      ("variable", .identifier "myString"),
      ("start", .text "0"),
      ("length", .text "5")]
  | .split => [("variable", .identifier "myString"), ("delimiter", .text ",")]
  | .replace => [
      ("variable", .identifier "myString"),
      ("oldValue", .text "old"),
      ("newValue", .text "new")]
  | .toLower => [("variable", .identifier "myString")]
  | .toUpper => [("variable", .identifier "myString")]
  | .trim => [("variable", .identifier "myString")]
  | .contains => [("variable", .identifier "myString"), ("value", .text "search")]
  | .throwException => [
      ("exceptionType", .text "Exception"),
      ("message", .text "An error occurred")]
  | .readKey | .readLine | .breakLoop | .continueLoop | .tryCatch | .tryCatchFinally => []

/-- The properties of a block. -/
def Block.defaults : Block → Defaults
  | .counting => [
      ("variable", .text "i"),
      ("start", .text "0"),
      ("end", .text "10"),
      ("increment", .text "1")]
  | .forEach => [
      ("type", .text "var"),
      ("item", .text "item"),
      ("collection", .text "collection")]
  | .whileLoop => [("condition", .keyword .truth)]
  | .doWhile => [("condition", .keyword .truth)]
  | .conditional => [("condition", .keyword .truth)]
  | .ifElse => [("condition", .keyword .truth)]
  | .ifElseIf => [("condition1", .keyword .truth), ("condition2", .keyword .truth)]
  | .switch => [("variable", .text "variable"), ("caseValue", .text "1")]

/-- The properties of an element type; a utility has none. -/
def Tag.defaults : Tag → Defaults
  | .statement kind => kind.defaults
  | .block kind => kind.defaults
  | .utility _ => []

/-- The default values that a language has of its own. -/
def Language.overrides : Language → Tag → Defaults
  | .java, .statement .variable => [("type", .text "String")]
  | .java, .statement .decimal => [("value", .text "\"0.0\"")]
  | .java, .statement .throwException => [("exceptionType", .text "RuntimeException")]
  | .javascript, .statement .long => [("value", .text "0")]
  | .javascript, .statement .float => [("value", .text "0.0")]
  | .javascript, .statement .decimal => [("value", .text "0.0")]
  | .javascript, .statement .throwException => [("exceptionType", .text "Error")]
  | .python, .statement .long => [("value", .text "0")]
  | .python, .statement .float => [("value", .text "0.0")]
  | .python, .statement .decimal => [("value", .text "\"0.0\"")]
  | _, _ => []

/-- The default value of a tag's property in a language, if it has one. -/
def Tag.default? (tag : Tag) (language : Language) (property : Text) : Option Default :=
  ((language.overrides tag).get? property).or (tag.defaults.get? property)

/-- The text that stands for an open property of an element type; it is empty when there is none. -/
def defaultText (language : Language) (type : String) (property : Text) : Text :=
  match (Tag.ofName? type).bind (·.default? language property) with
  | some value => value.spell language
  | none => []

end Blockwright
