import Blockwright.Dialect.Basic

/-!
# JavaScript

The statements, block headers and utility methods of JavaScript.  Variables have
no types, and utilities are static methods of the class.
-/

namespace Blockwright.Dialect.JavaScript

open Template

/-- The statements of JavaScript. -/
def statement : Statement → Template
  | .writeLine => ["console.log(", quoted "message", ");"]
  | .write => ["process.stdout.write(", quoted "message", ");"]
  | .readKey => ["require(\"fs\").readSync(0, Buffer.alloc(1));"]
  | .readLine => ["const input = require(\"fs\").readFileSync(0, \"utf8\").split(/\\r?\\n/)[0];"]
  | .debugPrint => ["console.debug(", quoted "message", ");"]
  | .traceWrite => ["console.trace(", quoted "message", ");"]
  | .breakLoop => ["break;"]
  | .continueLoop => ["continue;"]
  | .ternary => [
      "const result = ", field "condition", " ? ", field "trueValue", " : ", field "falseValue",
      ";"]
  | .variable => ["let ", field "name", " = ", field "value", ";"]
  | .constant => ["const ", field "name", " = ", field "value", ";"]
  | .array => ["const ", field "name", " = new Array(", field "size", ").fill(0);"]
  | .list => ["const ", field "name", " = [];"]
  | .dictionary => ["const ", field "name", " = new Map();"]
  | .returnValue => ["return ", field "value", ";"]
  | .string => ["let ", field "name", " = ", field "value", ";"]
  | .int => ["let ", field "name", " = ", field "value", ";"]
  | .long => ["let ", field "name", " = ", field "value", ";"]
  | .float => ["let ", field "name", " = ", field "value", ";"]
  | .double => ["let ", field "name", " = ", field "value", ";"]
  | .decimal => ["let ", field "name", " = ", field "value", ";"]
  | .bool => ["let ", field "name", " = ", field "value", ";"]
  | .char => ["let ", field "name", " = ", field "value", ";"]
  | .byte => ["let ", field "name", " = ", field "value", ";"]
  | .short => ["let ", field "name", " = ", field "value", ";"]
  | .squareRoot => ["const result = Math.sqrt(", field "value", ");"]
  | .power => ["const result = Math.pow(", field "base", ", ", field "exponent", ");"]
  | .absolute => ["const result = Math.abs(", field "value", ");"]
  | .minimum => ["const result = Math.min(", field "value1", ", ", field "value2", ");"]
  | .maximum => ["const result = Math.max(", field "value1", ", ", field "value2", ");"]
  | .random => [
      "const randomNumber = Math.floor(Math.random() * (", field "max", " - ", field "min",
      ")) + ", field "min", ";"]
  | .stringLength => ["const length = ", field "variable", ".length;"]
  | .substring => [
      "const result = ", field "variable", ".substring(", field "start", ", ", field "start",
      " + ", field "length", ");"]
  | .split => ["const parts = ", field "variable", ".split(", quoted "delimiter", ");"]
  | .replace => [
      "const result = ", field "variable", ".replaceAll(", quoted "oldValue", ", ",
      quoted "newValue", ");"]
  | .toLower => ["const result = ", field "variable", ".toLowerCase();"]
  | .toUpper => ["const result = ", field "variable", ".toUpperCase();"]
  | .trim => ["const result = ", field "variable", ".trim();"]
  | .contains => ["const contains = ", field "variable", ".includes(", quoted "value", ");"]
  | .tryCatch => verbatim [
      "try \x7b",
      "    // Code that might throw an error",
      "\x7d catch (error) \x7b",
      "    // Handle error",
      "\x7d"]
  | .tryCatchFinally => verbatim [
      "try \x7b",
      "    // Code that might throw an error",
      "\x7d catch (error) \x7b",
      "    // Handle error",
      "\x7d finally \x7b",
      "    // Cleanup code",
      "\x7d"]
  | .throwException => ["throw new ", field "exceptionType", "(", quoted "message", ");"]

/-- The block headers of JavaScript. -/
def headers : Headers where
  counting := [
    "for (let ", field "variable", " = ", field "start", "; ", field "variable", " < ",
    field "end", "; ", field "step", ")"]
  forEach := ["for (const ", field "item", " of ", field "collection", ")"]
  whileLoop := ["while (", field "condition", ")"]
  doOpening := "do"
  doClosing := ["while (", field "condition", ");"]
  conditional := ["if (", field "condition", ")"]
  firstCondition := ["if (", field "condition1", ")"]
  secondCondition := ["else if (", field "condition2", ")"]
  otherwise := "else"
  switch := ["switch (", field "variable", ")"]
  case := ["case ", field "caseValue", ":"]

/-- The lines of the utilities of JavaScript. -/
def utility : Utility → List String
  | .isEven => [
      "static isEven(number) \x7b",
      "    return number % 2 === 0;",
      "\x7d"]
  | .isOdd => [
      "static isOdd(number) \x7b",
      "    return number % 2 !== 0;",
      "\x7d"]
  | .isPrime => [
      "static isPrime(number) \x7b",
      "    if (number < 2) \x7b",
      "        return false;",
      "    \x7d",
      "    for (let i = 2; i * i <= number; i++) \x7b",
      "        if (number % i === 0) \x7b",
      "            return false;",
      "        \x7d",
      "    \x7d",
      "    return true;",
      "\x7d"]
  | .factorial => [
      "static factorial(n) \x7b",
      "    let result = 1;",
      "    for (let i = 2; i <= n; i++) \x7b",
      "        result *= i;",
      "    \x7d",
      "    return result;",
      "\x7d"]
  | .fibonacci => [
      "static fibonacci(n) \x7b",
      "    let a = 0;",
      "    let b = 1;",
      "    for (let i = 0; i < n; i++) \x7b",
      "        [a, b] = [b, a + b];",
      "    \x7d",
      "    return a;",
      "\x7d"]
  | .reverseString => [
      "static reverseString(text) \x7b",
      "    return text.split(\"\").reverse().join(\"\");",
      "\x7d"]
  | .isPalindrome => [
      "static isPalindrome(text) \x7b",
      "    const cleaned = text.replace(/\\s+/g, \"\").toLowerCase();",
      "    return cleaned === cleaned.split(\"\").reverse().join(\"\");",
      "\x7d"]
  | .swap => [
      "static swap(a, b) \x7b",
      "    return [b, a];",
      "\x7d"]
  | .decimalToBinary => [
      "static decimalToBinary(number) \x7b",
      "    return number.toString(2);",
      "\x7d"]
  | .binaryToDecimal => [
      "static binaryToDecimal(binary) \x7b",
      "    return parseInt(binary, 2);",
      "\x7d"]
  | .decimalToHex => [
      "static decimalToHex(number) \x7b",
      "    return number.toString(16).toUpperCase();",
      "\x7d"]
  | .celsiusToFahrenheit => [
      "static celsiusToFahrenheit(celsius) \x7b",
      "    return celsius * 9 / 5 + 32;",
      "\x7d"]
  | .fahrenheitToCelsius => [
      "static fahrenheitToCelsius(fahrenheit) \x7b",
      "    return (fahrenheit - 32) * 5 / 9;",
      "\x7d"]
  | .validateEmail => [
      "static validateEmail(email) \x7b",
      "    return /^[^@\\s]+@[^@\\s]+\\.[^@\\s]+$/.test(email);",
      "\x7d"]
  | .validatePassword => [
      "static validatePassword(password) \x7b",
      "    return password.length >= 8",
      "        && /[A-Z]/.test(password)",
      "        && /[a-z]/.test(password)",
      "        && /\\d/.test(password);",
      "\x7d"]
  | .validateUrl => [
      "static validateUrl(url) \x7b",
      "    try \x7b",
      "        const parsed = new URL(url);",
      "        return parsed.protocol === \"http:\" || parsed.protocol === \"https:\";",
      "    \x7d catch (error) \x7b",
      "        return false;",
      "    \x7d",
      "\x7d"]
  | .validateDate => [
      "static validateDate(date) \x7b",
      "    return !Number.isNaN(Date.parse(date));",
      "\x7d"]
  | .isNumeric => [
      "static isNumeric(text) \x7b",
      "    return text.trim() !== \"\" && !Number.isNaN(Number(text));",
      "\x7d"]

end Blockwright.Dialect.JavaScript
