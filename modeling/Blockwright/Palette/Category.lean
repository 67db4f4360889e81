import Blockwright.Language
import Blockwright.Palette.Tag
import Blockwright.Text.Naming

/-!
# The palette

The element types as the editor offers them: in categories, under labels.  Some
labels follow the target language, so that an element is shown by the name that
the language gives to what it does.
-/

namespace Blockwright.Palette

/-- A group of element types that are offered together. -/
structure Category where
  name : String
  tags : List Tag

/-- Every category in the order in which the palette shows them. -/
def categories : List Category := [
  ⟨"Output & Debug",
     [.statement .writeLine, .statement .write, .statement .readKey, .statement .readLine,
      .statement .debugPrint, .statement .traceWrite]⟩,
  ⟨"Control Flow",
     [.block .counting, .block .forEach, .block .whileLoop, .block .doWhile, .block .switch,
      .statement .breakLoop, .statement .continueLoop]⟩,
  ⟨"Conditionals",
     [.block .conditional, .block .ifElse, .block .ifElseIf, .statement .ternary]⟩,
  ⟨"Variables & Data",
     [.statement .variable, .statement .constant, .statement .array, .statement .list,
      .statement .dictionary, .statement .returnValue]⟩,
  ⟨"Primitive Types",
     [.statement .string, .statement .int, .statement .long, .statement .float,
      .statement .double, .statement .decimal, .statement .bool, .statement .char,
      .statement .byte, .statement .short]⟩,
  ⟨"Math & Operations",
     [.statement .squareRoot, .statement .power, .statement .absolute, .statement .minimum,
      .statement .maximum, .statement .random]⟩,
  ⟨"String Operations",
     [.statement .stringLength, .statement .substring, .statement .split,
      .statement .replace, .statement .toLower, .statement .toUpper, .statement .trim,
      .statement .contains]⟩,
  ⟨"Exception Handling",
     [.statement .tryCatch, .statement .tryCatchFinally, .statement .throwException]⟩,
  ⟨"Utility Functions", Utility.all.map .utility⟩]

/-- The label of a statement that all languages share. -/
def statementLabel : Statement → String
  | .writeLine => "Console.WriteLine"
  | .write => "Console.Write"
  | .readKey => "Console.ReadKey"
  | .readLine => "Console.ReadLine"
  | .debugPrint => "Debug.Print"
  | .traceWrite => "Trace.Write"
  | .breakLoop => "Break"
  | .continueLoop => "Continue"
  | .ternary => "Ternary Operator"
  | .variable => "Variable"
  | .constant => "Constant"
  | .array => "Array"
  | .list => "List"
  | .dictionary => "Dictionary"
  | .returnValue => "Return Statement"
  | .string => "String"
  | .int => "Integer"
  | .long => "Long"
  | .float => "Float"
  | .double => "Double"
  | .decimal => "Decimal"
  | .bool => "Boolean"
  | .char => "Character"
  | .byte => "Byte"
  | .short => "Short"
  | .squareRoot => "Math.Sqrt"
  | .power => "Math.Pow"
  | .absolute => "Math.Abs"
  | .minimum => "Math.Min"
  | .maximum => "Math.Max"
  | .random => "Random"
  | .stringLength => "String.Length"
  | .substring => "Substring"
  | .split => "Split"
  | .replace => "Replace"
  | .toLower => "ToLower"
  | .toUpper => "ToUpper"
  | .trim => "Trim"
  | .contains => "Contains"
  | .tryCatch => "Try-Catch"
  | .tryCatchFinally => "Try-Catch-Finally"
  | .throwException => "Throw Exception"

/-- The label of a block that all languages share. -/
def blockLabel : Block → String
  | .counting => "For Loop"
  | .forEach => "ForEach Loop"
  | .whileLoop => "While Loop"
  | .doWhile => "Do-While Loop"
  | .conditional => "If Statement"
  | .ifElse => "If-Else"
  | .ifElseIf => "If-Else If"
  | .switch => "Switch Statement"

/-- The label that all languages share; a utility is labelled by the words of its name. -/
def sharedLabel : Tag → Text
  | .statement kind => statementLabel kind
  | .block kind => blockLabel kind
  | .utility kind => Text.titleWords kind.name

/-- A label for each language. -/
structure LanguageLabels where
  csharp : String
  java : String
  javascript : String
  python : String

/-- The label of a language. -/
def LanguageLabels.get (labels : LanguageLabels) : Language → String
  | .csharp => labels.csharp
  | .java => labels.java
  | .javascript => labels.javascript
  | .python => labels.python

/-- The labels of a tag that follow the language, if they do. -/
def languageLabels? : Tag → Option LanguageLabels
  | .statement .writeLine =>
      some ⟨"Console.WriteLine", "System.out.println", "console.log", "print"⟩
  | .statement .write =>
      some ⟨"Console.Write", "System.out.print", "process.stdout.write", "print"⟩
  | .statement .readKey => some ⟨"Console.ReadKey", "Scanner.nextLine", "fs.readSync", "input"⟩
  | .statement .readLine =>
      some ⟨"Console.ReadLine", "Scanner.nextLine", "fs.readFileSync", "input"⟩
  | .statement .debugPrint => some ⟨"Debug.Print", "System.err.println", "console.debug", "print"⟩
  | .statement .traceWrite => some ⟨"Trace.Write", "System.err.print", "console.trace", "print"⟩
  | .block .forEach => some ⟨"ForEach Loop", "Enhanced For", "For...of Loop", "For...in Loop"⟩
  | .block .doWhile => some ⟨"Do-While Loop", "Do-While Loop", "Do-While Loop", "While True"⟩
  | .block .switch =>
      some ⟨"Switch Statement", "Switch Statement", "Switch Statement", "Match Statement"⟩
  | .block .ifElseIf => some ⟨"If-Else If", "If-Else If", "If-Else If", "If-Elif-Else"⟩
  | .statement .ternary =>
      some ⟨"Ternary Operator", "Ternary Operator", "Ternary Operator", "Conditional Expression"⟩
  | .statement .variable => some ⟨"Variable", "Variable", "Let/Const", "Variable"⟩
  | .statement .constant => some ⟨"Constant", "Final Variable", "Const", "Constant"⟩
  | .statement .array => some ⟨"Array", "Array", "Array", "List"⟩
  | .statement .list => some ⟨"List", "ArrayList", "Array", "List"⟩
  | .statement .dictionary => some ⟨"Dictionary", "HashMap", "Object/Map", "Dictionary"⟩
  | .statement .tryCatch => some ⟨"Try-Catch", "Try-Catch", "Try-Catch", "Try-Except"⟩
  | .statement .tryCatchFinally =>
      some ⟨"Try-Catch-Finally", "Try-Catch-Finally", "Try-Catch-Finally", "Try-Except-Finally"⟩
  | .statement .throwException =>
      some ⟨"Throw Exception", "Throw Exception", "Throw Error", "Raise Exception"⟩
  | _ => none

/-- The label of a tag as it is shown for a language. -/
def label (language : Language) (tag : Tag) : Text :=
  match languageLabels? tag with
  | some labels => labels.get language
  | none => sharedLabel tag

/-- The label of an element type; a type outside the vocabulary is its own label. -/
def labelOf (language : Language) (type : String) : Text :=
  match Tag.ofName? type with
  | some tag => label language tag
  | none => type

/-- The rows of a category: the name of each type beside its label, and an empty line. -/
def Category.rows (language : Language) (category : Category) : List Text :=
  let row (tag : Tag) : Text :=
    let name := tag.name.toList
    "  " ++ name ++ List.replicate (24 - name.length) ' ' ++ " " ++ label language tag
  category.name.toList :: (category.tags.map row ++ [[]])

/-- The listing of the whole palette. -/
def listing (language : Language) : Text :=
  Text.ofLines (categories.flatMap (Category.rows language))

end Blockwright.Palette
