import Blockwright.Dialect.Basic

/-!
# C#

The statements, block headers and utility methods of C#.  Braces stand on lines
of their own, and utilities are public static methods of the class.
-/

namespace Blockwright.Dialect.CSharp

open Template

/-- The statements of C#. -/
def statement : Statement → Template
  | .writeLine => ["Console.WriteLine(", quoted "message", ");"]
  | .write => ["Console.Write(", quoted "message", ");"]
  | .readKey => ["Console.ReadKey();"]
  | .readLine => ["string input = Console.ReadLine();"]
  | .debugPrint => ["Debug.Print(", quoted "message", ");"]
  | .traceWrite => ["Trace.Write(", quoted "message", ");"]
  | .breakLoop => ["break;"]
  | .continueLoop => ["continue;"]
  | .ternary => [
      "var result = ", field "condition", " ? ", field "trueValue", " : ", field "falseValue",
      ";"]
  | .variable => [native "type", " ", field "name", " = ", field "value", ";"]
  | .constant => ["const ", native "type", " ", field "name", " = ", field "value", ";"]
  | .array => [
      native "type", "[] ", field "name", " = new ", native "type", "[", field "size", "];"]
  | .list => [
      "List<", native "type", "> ", field "name", " = new List<", native "type", ">();"]
  | .dictionary => [
      "Dictionary<", native "keyType", ", ", native "valueType", "> ", field "name",
      " = new Dictionary<", native "keyType", ", ", native "valueType", ">();"]
  | .returnValue => ["return ", field "value", ";"]
  | .string => ["string ", field "name", " = ", field "value", ";"]
  | .int => ["int ", field "name", " = ", field "value", ";"]
  | .long => ["long ", field "name", " = ", field "value", ";"]
  | .float => ["float ", field "name", " = ", field "value", ";"]
  | .double => ["double ", field "name", " = ", field "value", ";"]
  | .decimal => ["decimal ", field "name", " = ", field "value", ";"]
  | .bool => ["bool ", field "name", " = ", field "value", ";"]
  | .char => ["char ", field "name", " = ", field "value", ";"]
  | .byte => ["byte ", field "name", " = ", field "value", ";"]
  | .short => ["short ", field "name", " = ", field "value", ";"]
  | .squareRoot => ["double result = Math.Sqrt(", field "value", ");"]
  | .power => ["double result = Math.Pow(", field "base", ", ", field "exponent", ");"]
  | .absolute => [native "type", " result = Math.Abs(", field "value", ");"]
  | .minimum => [
      native "type", " result = Math.Min(", field "value1", ", ", field "value2", ");"]
  | .maximum => [
      native "type", " result = Math.Max(", field "value1", ", ", field "value2", ");"]
  | .random => [
      "Random rand = new Random();\nint randomNumber = rand.Next(", field "min", ", ",
      field "max", ");"]
  | .stringLength => ["int length = ", field "variable", ".Length;"]
  | .substring => [
      "string result = ", field "variable", ".Substring(", field "start", ", ", field "length",
      ");"]
  | .split => ["string[] parts = ", field "variable", ".Split(", quoted "delimiter", ");"]
  | .replace => [
      "string result = ", field "variable", ".Replace(", quoted "oldValue", ", ",
      quoted "newValue", ");"]
  | .toLower => ["string result = ", field "variable", ".ToLower();"]
  | .toUpper => ["string result = ", field "variable", ".ToUpper();"]
  | .trim => ["string result = ", field "variable", ".Trim();"]
  | .contains => ["bool contains = ", field "variable", ".Contains(", quoted "value", ");"]
  | .tryCatch => verbatim [
      "try",
      "\x7b",
      "    // Code that might throw an exception",
      "\x7d",
      "catch (Exception ex)",
      "\x7b",
      "    // Handle exception",
      "\x7d"]
  | .tryCatchFinally => verbatim [
      "try",
      "\x7b",
      "    // Code that might throw an exception",
      "\x7d",
      "catch (Exception ex)",
      "\x7b",
      "    // Handle exception",
      "\x7d",
      "finally",
      "\x7b",
      "    // Cleanup code",
      "\x7d"]
  | .throwException => ["throw new ", field "exceptionType", "(", quoted "message", ");"]

/-- The block headers of C#. -/
def headers : Headers where
  counting := [
    "for (int ", field "variable", " = ", field "start", "; ", field "variable", " < ",
    field "end", "; ", field "step", ")"]
  forEach := ["foreach (", native "type", " ", field "item", " in ", field "collection", ")"]
  whileLoop := ["while (", field "condition", ")"]
  doOpening := "do"
  doClosing := ["while (", field "condition", ");"]
  conditional := ["if (", field "condition", ")"]
  firstCondition := ["if (", field "condition1", ")"]
  secondCondition := ["else if (", field "condition2", ")"]
  otherwise := "else"
  switch := ["switch (", field "variable", ")"]
  case := ["case ", field "caseValue", ":"]

/-- The lines of the utilities of C#. -/
def utility : Utility → List String
  | .isEven => [
      "public static bool IsEven(int number)",
      "\x7b",
      "    return number % 2 == 0;",
      "\x7d"]
  | .isOdd => [
      "public static bool IsOdd(int number)",
      "\x7b",
      "    return number % 2 != 0;",
      "\x7d"]
  | .isPrime => [
      "public static bool IsPrime(int number)",
      "\x7b",
      "    if (number < 2)",
      "    \x7b",
      "        return false;",
      "    \x7d",
      "    for (int i = 2; i * i <= number; i++)",
      "    \x7b",
      "        if (number % i == 0)",
      "        \x7b",
      "            return false;",
      "        \x7d",
      "    \x7d",
      "    return true;",
      "\x7d"]
  | .factorial => [
      "public static long Factorial(int n)",
      "\x7b",
      "    long result = 1;",
      "    for (int i = 2; i <= n; i++)",
      "    \x7b",
      "        result *= i;",
      "    \x7d",
      "    return result;",
      "\x7d"]
  | .fibonacci => [
      "public static long Fibonacci(int n)",
      "\x7b",
      "    long a = 0;",
      "    long b = 1;",
      "    for (int i = 0; i < n; i++)",
      "    \x7b",
      "        long next = a + b;",
      "        a = b;",
      "        b = next;",
      "    \x7d",
      "    return a;",
      "\x7d"]
  | .reverseString => [
      "public static string ReverseString(string text)",
      "\x7b",
      "    char[] chars = text.ToCharArray();",
      "    Array.Reverse(chars);",
      "    return new string(chars);",
      "\x7d"]
  | .isPalindrome => [
      "public static bool IsPalindrome(string text)",
      "\x7b",
      "    string cleaned = text.Replace(\" \", \"\").ToLower();",
      "    char[] chars = cleaned.ToCharArray();",
      "    Array.Reverse(chars);",
      "    return cleaned == new string(chars);",
      "\x7d"]
  | .swap => [
      "public static void Swap<T>(ref T a, ref T b)",
      "\x7b",
      "    T temp = a;",
      "    a = b;",
      "    b = temp;",
      "\x7d"]
  | .decimalToBinary => [
      "public static string DecimalToBinary(int number)",
      "\x7b",
      "    return Convert.ToString(number, 2);",
      "\x7d"]
  | .binaryToDecimal => [
      "public static int BinaryToDecimal(string binary)",
      "\x7b",
      "    return Convert.ToInt32(binary, 2);",
      "\x7d"]
  | .decimalToHex => [
      "public static string DecimalToHex(int number)",
      "\x7b",
      "    return number.ToString(\"X\");",
      "\x7d"]
  | .celsiusToFahrenheit => [
      "public static double CelsiusToFahrenheit(double celsius)",
      "\x7b",
      "    return celsius * 9 / 5 + 32;",
      "\x7d"]
  | .fahrenheitToCelsius => [
      "public static double FahrenheitToCelsius(double fahrenheit)",
      "\x7b",
      "    return (fahrenheit - 32) * 5 / 9;",
      "\x7d"]
  | .validateEmail => [
      "public static bool ValidateEmail(string email)",
      "\x7b",
      "    return Regex.IsMatch(email, @\"^[^@\\s]+@[^@\\s]+\\.[^@\\s]+$\");",
      "\x7d"]
  | .validatePassword => [
      "public static bool ValidatePassword(string password)",
      "\x7b",
      "    return password.Length >= 8",
      "        && password.Any(char.IsUpper)",
      "        && password.Any(char.IsLower)",
      "        && password.Any(char.IsDigit);",
      "\x7d"]
  | .validateUrl => [
      "public static bool ValidateUrl(string url)",
      "\x7b",
      "    return Uri.TryCreate(url, UriKind.Absolute, out Uri result)",
      "        && (result.Scheme == Uri.UriSchemeHttp || result.Scheme == Uri.UriSchemeHttps);",
      "\x7d"]
  | .validateDate => [
      "public static bool ValidateDate(string date)",
      "\x7b",
      "    return DateTime.TryParse(date, out _);",
      "\x7d"]
  | .isNumeric => [
      "public static bool IsNumeric(string text)",
      "\x7b",
      "    return double.TryParse(text, out _);",
      "\x7d"]

end Blockwright.Dialect.CSharp
