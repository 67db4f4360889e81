/-!
# Element tags

The closed vocabulary of element types: statements, which are written from a
template; blocks, which hold further elements; and utilities, which are whole
functions.  Projects name element types by text, and a text outside the
vocabulary is no tag.
-/

namespace Blockwright

/-- Elements written as one statement each. -/
inductive Statement where
  | writeLine | write | readKey | readLine | debugPrint | traceWrite | breakLoop
  | continueLoop | ternary | variable | constant | array | list | dictionary
  | returnValue | string | int | long | float | double | decimal | bool | char | byte
  | short | squareRoot | power | absolute | minimum | maximum | random | stringLength
  | substring | split | replace | toLower | toUpper | trim | contains | tryCatch
  | tryCatchFinally | throwException
  deriving DecidableEq, Repr

/-- Elements whose children form a nested body. -/
inductive Block where
  | counting | forEach | whileLoop | doWhile | conditional | ifElse | ifElseIf | switch
  deriving DecidableEq, Repr

/-- Self-contained functions offered as single elements. -/
inductive Utility where
  | isEven | isOdd | isPrime | factorial | fibonacci | reverseString | isPalindrome
  | swap | decimalToBinary | binaryToDecimal | decimalToHex | celsiusToFahrenheit
  | fahrenheitToCelsius | validateEmail | validatePassword | validateUrl | validateDate
  | isNumeric
  deriving DecidableEq, Repr

/-- An element type of the vocabulary. -/
inductive Tag where
  | statement (kind : Statement)
  | block (kind : Block)
  | utility (kind : Utility)
  deriving DecidableEq, Repr

/-- Every statement. -/
def Statement.all : List Statement := [
  .writeLine, .write, .readKey, .readLine, .debugPrint, .traceWrite, .breakLoop,
  .continueLoop, .ternary, .variable, .constant, .array, .list, .dictionary,
  .returnValue, .string, .int, .long, .float, .double, .decimal, .bool, .char, .byte,
  .short, .squareRoot, .power, .absolute, .minimum, .maximum, .random, .stringLength,
  .substring, .split, .replace, .toLower, .toUpper, .trim, .contains, .tryCatch,
  .tryCatchFinally, .throwException]

/-- Every block. -/
def Block.all : List Block := [
  .counting, .forEach, .whileLoop, .doWhile, .conditional, .ifElse, .ifElseIf, .switch]

/-- Every utility, in the order in which utilities are listed. -/
def Utility.all : List Utility := [
  .isEven, .isOdd, .isPrime, .factorial, .fibonacci, .reverseString, .isPalindrome,
  .swap, .decimalToBinary, .binaryToDecimal, .decimalToHex, .celsiusToFahrenheit,
  .fahrenheitToCelsius, .validateEmail, .validatePassword, .validateUrl, .validateDate,
  .isNumeric]

/-- The text that names a statement in a project. -/
def Statement.name : Statement → String
  | .writeLine => "console.writeline"
  | .write => "console.write"
  | .readKey => "console.readkey"
  | .readLine => "console.readline"
  | .debugPrint => "debug.print"
  | .traceWrite => "trace.write"
  | .breakLoop => "break"
  | .continueLoop => "continue"
  | .ternary => "ternary"
  | .variable => "variable"
  | .constant => "constant"
  | .array => "array"
  | .list => "list"
  | .dictionary => "dictionary"
  | .returnValue => "return"
  | .string => "string"
  | .int => "int"
  | .long => "long"
  | .float => "float"
  | .double => "double"
  | .decimal => "decimal"
  | .bool => "bool"
  | .char => "char"
  | .byte => "byte"
  | .short => "short"
  | .squareRoot => "math.sqrt"
  | .power => "math.pow"
  | .absolute => "math.abs"
  | .minimum => "math.min"
  | .maximum => "math.max"
  | .random => "random"
  | .stringLength => "string.length"
  | .substring => "string.substring"
  | .split => "string.split"
  | .replace => "string.replace"
  | .toLower => "string.tolower"
  | .toUpper => "string.toupper"
  | .trim => "string.trim"
  | .contains => "string.contains"
  | .tryCatch => "try-catch"
  | .tryCatchFinally => "try-catch-finally"
  | .throwException => "throw"

/-- The text that names a block in a project. -/
def Block.name : Block → String
  | .counting => "for"
  | .forEach => "foreach"
  | .whileLoop => "while"
  | .doWhile => "do-while"
  | .conditional => "if"
  | .ifElse => "if-else"
  | .ifElseIf => "if-else-if"
  | .switch => "switch"

/-- The text that names a utility in a project. -/
def Utility.name : Utility → String
  | .isEven => "is-even"
  | .isOdd => "is-odd"
  | .isPrime => "is-prime"
  | .factorial => "factorial"
  | .fibonacci => "fibonacci"
  | .reverseString => "reverse-string"
  | .isPalindrome => "is-palindrome"
  | .swap => "swap"
  | .decimalToBinary => "decimal-to-binary"
  | .binaryToDecimal => "binary-to-decimal"
  | .decimalToHex => "decimal-to-hex"
  | .celsiusToFahrenheit => "celsius-to-fahrenheit"
  | .fahrenheitToCelsius => "fahrenheit-to-celsius"
  | .validateEmail => "validate-email"
  | .validatePassword => "validate-password"
  | .validateUrl => "validate-url"
  | .validateDate => "validate-date"
  | .isNumeric => "is-numeric"

namespace Tag

/-- Every tag. -/
def all : List Tag :=
  Statement.all.map .statement ++ Block.all.map .block ++ Utility.all.map .utility

/-- The text that names a tag in a project. -/
def name : Tag → String
  | .statement kind => kind.name
  | .block kind => kind.name
  | .utility kind => kind.name

/-- The tag that a text names. -/
def ofName? (name : String) : Option Tag :=
  all.find? (·.name = name)

theorem name_of_ofName?
    {name : String} {tag : Tag}
    (known : ofName? name = some tag) :
    tag.name = name := by
  have same := List.find?_some known
  exact of_decide_eq_true same

/-- The block that a tag is. -/
def block? : Tag → Option Block
  | .block kind => some kind
  | _ => none

/-- The utility that a tag is. -/
def utility? : Tag → Option Utility
  | .utility kind => some kind
  | _ => none

end Tag

end Blockwright
