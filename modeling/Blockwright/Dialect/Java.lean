import Blockwright.Dialect.Basic

/-!
# Java

The statements, block headers and utility methods of Java.  Opening braces end
the lines of their headers, and generic type arguments are boxed.
-/

namespace Blockwright.Dialect.Java

open Template

/-- The statements of Java. -/
def statement : Statement → Template
  | .writeLine => ["System.out.println(", quoted "message", ");"]
  | .write => ["System.out.print(", quoted "message", ");"]
  | .readKey => ["new Scanner(System.in).nextLine();"]
  | .readLine => ["String input = new Scanner(System.in).nextLine();"]
  | .debugPrint => ["System.err.println(", quoted "message", ");"]
  | .traceWrite => ["System.err.print(", quoted "message", ");"]
  | .breakLoop => ["break;"]
  | .continueLoop => ["continue;"]
  | .ternary => [
      "var result = ", field "condition", " ? ", field "trueValue", " : ", field "falseValue",
      ";"]
  | .variable => [native "type", " ", field "name", " = ", field "value", ";"]
  | .constant => ["final ", native "type", " ", field "name", " = ", field "value", ";"]
  | .array => [
      native "type", "[] ", field "name", " = new ", native "type", "[", field "size", "];"]
  | .list => ["List<", boxed "type", "> ", field "name", " = new ArrayList<>();"]
  | .dictionary => [
      "Map<", boxed "keyType", ", ", boxed "valueType", "> ", field "name",
      " = new HashMap<>();"]
  | .returnValue => ["return ", field "value", ";"]
  | .string => ["String ", field "name", " = ", field "value", ";"]
  | .int => ["int ", field "name", " = ", field "value", ";"]
  | .long => ["long ", field "name", " = ", field "value", ";"]
  | .float => ["float ", field "name", " = ", field "value", ";"]
  | .double => ["double ", field "name", " = ", field "value", ";"]
  | .decimal => ["BigDecimal ", field "name", " = new BigDecimal(", field "value", ");"]
  | .bool => ["boolean ", field "name", " = ", field "value", ";"]
  | .char => ["char ", field "name", " = ", field "value", ";"]
  | .byte => ["byte ", field "name", " = ", field "value", ";"]
  | .short => ["short ", field "name", " = ", field "value", ";"]
  | .squareRoot => ["double result = Math.sqrt(", field "value", ");"]
  | .power => ["double result = Math.pow(", field "base", ", ", field "exponent", ");"]
  | .absolute => [native "type", " result = Math.abs(", field "value", ");"]
  | .minimum => [
      native "type", " result = Math.min(", field "value1", ", ", field "value2", ");"]
  | .maximum => [
      native "type", " result = Math.max(", field "value1", ", ", field "value2", ");"]
  | .random => [
      "Random rand = new Random();\nint randomNumber = rand.nextInt(", field "max", " - ",
      field "min", ") + ", field "min", ";"]
  | .stringLength => ["int length = ", field "variable", ".length();"]
  | .substring => [
      "String result = ", field "variable", ".substring(", field "start", ", ", field "start",
      " + ", field "length", ");"]
  | .split => ["String[] parts = ", field "variable", ".split(", quoted "delimiter", ");"]
  | .replace => [
      "String result = ", field "variable", ".replace(", quoted "oldValue", ", ",
      quoted "newValue", ");"]
  | .toLower => ["String result = ", field "variable", ".toLowerCase();"]
  | .toUpper => ["String result = ", field "variable", ".toUpperCase();"]
  | .trim => ["String result = ", field "variable", ".trim();"]
  | .contains => ["boolean contains = ", field "variable", ".contains(", quoted "value", ");"]
  | .tryCatch => verbatim [
      "try \x7b",
      "    // Code that might throw an exception",
      "\x7d catch (Exception ex) \x7b",
      "    // Handle exception",
      "\x7d"]
  | .tryCatchFinally => verbatim [
      "try \x7b",
      "    // Code that might throw an exception",
      "\x7d catch (Exception ex) \x7b",
      "    // Handle exception",
      "\x7d finally \x7b",
      "    // Cleanup code",
      "\x7d"]
  | .throwException => ["throw new ", field "exceptionType", "(", quoted "message", ");"]

/-- The block headers of Java. -/
def headers : Headers where
  counting := [
    "for (int ", field "variable", " = ", field "start", "; ", field "variable", " < ",
    field "end", "; ", field "step", ")"]
  forEach := ["for (", native "type", " ", field "item", " : ", field "collection", ")"]
  whileLoop := ["while (", field "condition", ")"]
  doOpening := "do"
  doClosing := ["while (", field "condition", ");"]
  conditional := ["if (", field "condition", ")"]
  firstCondition := ["if (", field "condition1", ")"]
  secondCondition := ["else if (", field "condition2", ")"]
  otherwise := "else"
  switch := ["switch (", field "variable", ")"]
  case := ["case ", field "caseValue", ":"]

/-- The lines of the utilities of Java. -/
def utility : Utility → List String
  | .isEven => [
      "public static boolean isEven(int number) \x7b",
      "    return number % 2 == 0;",
      "\x7d"]
  | .isOdd => [
      "public static boolean isOdd(int number) \x7b",
      "    return number % 2 != 0;",
      "\x7d"]
  | .isPrime => [
      "public static boolean isPrime(int number) \x7b",
      "    if (number < 2) \x7b",
      "        return false;",
      "    \x7d",
      "    for (int i = 2; i * i <= number; i++) \x7b",
      "        if (number % i == 0) \x7b",
      "            return false;",
      "        \x7d",
      "    \x7d",
      "    return true;",
      "\x7d"]
  | .factorial => [
      "public static long factorial(int n) \x7b",
      "    long result = 1;",
      "    for (int i = 2; i <= n; i++) \x7b",
      "        result *= i;",
      "    \x7d",
      "    return result;",
      "\x7d"]
  | .fibonacci => [
      "public static long fibonacci(int n) \x7b",
      "    long a = 0;",
      "    long b = 1;",
      "    for (int i = 0; i < n; i++) \x7b",
      "        long next = a + b;",
      "        a = b;",
      "        b = next;",
      "    \x7d",
      "    return a;",
      "\x7d"]
  | .reverseString => [
      "public static String reverseString(String text) \x7b",
      "    return new StringBuilder(text).reverse().toString();",
      "\x7d"]
  | .isPalindrome => [
      "public static boolean isPalindrome(String text) \x7b",
      "    String cleaned = text.replace(\" \", \"\").toLowerCase();",
      "    return cleaned.equals(new StringBuilder(cleaned).reverse().toString());",
      "\x7d"]
  | .swap => [
      "public static void swap(int[] values, int i, int j) \x7b",
      "    int temp = values[i];",
      "    values[i] = values[j];",
      "    values[j] = temp;",
      "\x7d"]
  | .decimalToBinary => [
      "public static String decimalToBinary(int number) \x7b",
      "    return Integer.toBinaryString(number);",
      "\x7d"]
  | .binaryToDecimal => [
      "public static int binaryToDecimal(String binary) \x7b",
      "    return Integer.parseInt(binary, 2);",
      "\x7d"]
  | .decimalToHex => [
      "public static String decimalToHex(int number) \x7b",
      "    return Integer.toHexString(number).toUpperCase();",
      "\x7d"]
  | .celsiusToFahrenheit => [
      "public static double celsiusToFahrenheit(double celsius) \x7b",
      "    return celsius * 9 / 5 + 32;",
      "\x7d"]
  | .fahrenheitToCelsius => [
      "public static double fahrenheitToCelsius(double fahrenheit) \x7b",
      "    return (fahrenheit - 32) * 5 / 9;",
      "\x7d"]
  | .validateEmail => [
      "public static boolean validateEmail(String email) \x7b",
      "    return email.matches(\"^[^@\\\\s]+@[^@\\\\s]+\\\\.[^@\\\\s]+$\");",
      "\x7d"]
  | .validatePassword => [
      "public static boolean validatePassword(String password) \x7b",
      "    return password.length() >= 8",
      "        && password.matches(\".*[A-Z].*\")",
      "        && password.matches(\".*[a-z].*\")",
      "        && password.matches(\".*\\\\d.*\");",
      "\x7d"]
  | .validateUrl => [
      "public static boolean validateUrl(String url) \x7b",
      "    try \x7b",
      "        java.net.URI uri = new java.net.URI(url);",
      "        return \"http\".equals(uri.getScheme()) || \"https\".equals(uri.getScheme());",
      "    \x7d catch (java.net.URISyntaxException e) \x7b",
      "        return false;",
      "    \x7d",
      "\x7d"]
  | .validateDate => [
      "public static boolean validateDate(String date) \x7b",
      "    try \x7b",
      "        java.time.LocalDate.parse(date);",
      "        return true;",
      "    \x7d catch (java.time.format.DateTimeParseException e) \x7b",
      "        return false;",
      "    \x7d",
      "\x7d"]
  | .isNumeric => [
      "public static boolean isNumeric(String text) \x7b",
      "    try \x7b",
      "        Double.parseDouble(text);",
      "        return true;",
      "    \x7d catch (NumberFormatException e) \x7b",
      "        return false;",
      "    \x7d",
      "\x7d"]

end Blockwright.Dialect.Java
