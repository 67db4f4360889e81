import Blockwright.Dialect.Basic

/-!
# Python

The statements, block headers and utility functions of Python.  Blocks are
delimited by indentation, and utilities are functions nested where they are
used.
-/

namespace Blockwright.Dialect.Python

open Template

/-- The statements of Python. -/
def statement : Statement → Template
  | .writeLine => ["print(", quoted "message", ")"]
  | .write => ["print(", quoted "message", ", end=\"\")"]
  | .readKey => ["input()"]
  | .readLine => ["user_input = input()"]
  | .debugPrint => ["print(", quoted "message", ", file=sys.stderr)"]
  | .traceWrite => ["print(", quoted "message", ", end=\"\", file=sys.stderr)"]
  | .breakLoop => ["break"]
  | .continueLoop => ["continue"]
  | .ternary => [
      "result = ", field "trueValue", " if ", field "condition", " else ", field "falseValue"]
  | .variable => [field "name", " = ", field "value"]
  | .constant => [field "name", " = ", field "value"]
  | .array => [field "name", " = [0] * ", field "size"]
  | .list => [field "name", " = []"]
  | .dictionary => [field "name", " = \x7b\x7d"]
  | .returnValue => ["return ", field "value"]
  | .string => [field "name", " = ", field "value"]
  | .int => [field "name", " = ", field "value"]
  | .long => [field "name", " = ", field "value"]
  | .float => [field "name", " = ", field "value"]
  | .double => [field "name", " = ", field "value"]
  | .decimal => [field "name", " = Decimal(", field "value", ")"]
  | .bool => [field "name", " = ", field "value"]
  | .char => [field "name", " = ", field "value"]
  | .byte => [field "name", " = ", field "value"]
  | .short => [field "name", " = ", field "value"]
  | .squareRoot => ["result = math.sqrt(", field "value", ")"]
  | .power => ["result = math.pow(", field "base", ", ", field "exponent", ")"]
  | .absolute => ["result = abs(", field "value", ")"]
  | .minimum => ["result = min(", field "value1", ", ", field "value2", ")"]
  | .maximum => ["result = max(", field "value1", ", ", field "value2", ")"]
  | .random => ["random_number = random.randint(", field "min", ", ", field "max", ")"]
  | .stringLength => ["length = len(", field "variable", ")"]
  | .substring => [
      "result = ", field "variable", "[", field "start", ":", field "start", " + ",
      field "length", "]"]
  | .split => ["parts = ", field "variable", ".split(", quoted "delimiter", ")"]
  | .replace => [
      "result = ", field "variable", ".replace(", quoted "oldValue", ", ", quoted "newValue",
      ")"]
  | .toLower => ["result = ", field "variable", ".lower()"]
  | .toUpper => ["result = ", field "variable", ".upper()"]
  | .trim => ["result = ", field "variable", ".strip()"]
  | .contains => ["contains = ", quoted "value", " in ", field "variable"]
  | .tryCatch => verbatim [
      "try:",
      "    # Code that might raise an exception",
      "    pass",
      "except Exception as ex:",
      "    # Handle exception",
      "    pass"]
  | .tryCatchFinally => verbatim [
      "try:",
      "    # Code that might raise an exception",
      "    pass",
      "except Exception as ex:",
      "    # Handle exception",
      "    pass",
      "finally:",
      "    # Cleanup code",
      "    pass"]
  | .throwException => ["raise ", field "exceptionType", "(", quoted "message", ")"]

/-- The block headers of Python. -/
def headers : Headers where
  counting := ["for ", field "variable", " in ", field "range"]
  forEach := ["for ", field "item", " in ", field "collection"]
  whileLoop := ["while ", field "condition"]
  doOpening := "while True"
  doClosing := ["if not (", field "condition", "):"]
  conditional := ["if ", field "condition"]
  firstCondition := ["if ", field "condition1"]
  secondCondition := ["elif ", field "condition2"]
  otherwise := "else"
  switch := ["match ", field "variable"]
  case := ["case _ if ", field "variable", " == ", field "caseValue"]

/-- The lines of the utilities of Python. -/
def utility : Utility → List String
  | .isEven => [
      "def is_even(number):",
      "    return number % 2 == 0"]
  | .isOdd => [
      "def is_odd(number):",
      "    return number % 2 != 0"]
  | .isPrime => [
      "def is_prime(number):",
      "    if number < 2:",
      "        return False",
      "    for i in range(2, int(number ** 0.5) + 1):",
      "        if number % i == 0:",
      "            return False",
      "    return True"]
  | .factorial => [
      "def factorial(n):",
      "    result = 1",
      "    for i in range(2, n + 1):",
      "        result *= i",
      "    return result"]
  | .fibonacci => [
      "def fibonacci(n):",
      "    a, b = 0, 1",
      "    for _ in range(n):",
      "        a, b = b, a + b",
      "    return a"]
  | .reverseString => [
      "def reverse_string(text):",
      "    return text[::-1]"]
  | .isPalindrome => [
      "def is_palindrome(text):",
      "    cleaned = text.replace(\" \", \"\").lower()",
      "    return cleaned == cleaned[::-1]"]
  | .swap => [
      "def swap(a, b):",
      "    return b, a"]
  | .decimalToBinary => [
      "def decimal_to_binary(number):",
      "    return format(number, \"b\")"]
  | .binaryToDecimal => [
      "def binary_to_decimal(binary):",
      "    return int(binary, 2)"]
  | .decimalToHex => [
      "def decimal_to_hex(number):",
      "    return format(number, \"X\")"]
  | .celsiusToFahrenheit => [
      "def celsius_to_fahrenheit(celsius):",
      "    return celsius * 9 / 5 + 32"]
  | .fahrenheitToCelsius => [
      "def fahrenheit_to_celsius(fahrenheit):",
      "    return (fahrenheit - 32) * 5 / 9"]
  | .validateEmail => [
      "def validate_email(email):",
      "    return re.fullmatch(r\"[^@\\s]+@[^@\\s]+\\.[^@\\s]+\", email) is not None"]
  | .validatePassword => [
      "def validate_password(password):",
      "    return (",
      "        len(password) >= 8",
      "        and any(c.isupper() for c in password)",
      "        and any(c.islower() for c in password)",
      "        and any(c.isdigit() for c in password)",
      "    )"]
  | .validateUrl => [
      "def validate_url(url):",
      "    return re.fullmatch(r\"https?://[^\\s/]+(/\\S*)?\", url) is not None"]
  | .validateDate => [
      "def validate_date(date):",
      "    try:",
      "        datetime.strptime(date, \"%Y-%m-%d\")",
      "    except ValueError:",
      "        return False",
      "    return True"]
  | .isNumeric => [
      "def is_numeric(text):",
      "    try:",
      "        float(text)",
      "    except ValueError:",
      "        return False",
      "    return True"]

end Blockwright.Dialect.Python
