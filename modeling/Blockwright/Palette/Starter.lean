import Blockwright.Project.Basic

/-!
# New elements

What an element holds when it has just been dropped on the canvas: a text to
show, the properties that the editor fills in, and a name made of its type and
the time at which it was dropped.
-/

namespace Blockwright.Palette

/-- The text shown on a new element of a type; most types show their name. -/
def startingContent : List (String × String) := [
  ("console.writeline", "Console.WriteLine(\"Hello World\");"),
  ("console.write", "Console.Write(\"Hello\");"),
  ("for", "for (int i = 0; i < 10; i++)"),
  ("while", "while (condition)"),
  ("if", "if (condition)"),
  ("if-else", "if (condition) \x7b \x7d else \x7b \x7d"),
  ("if-else-if", "if (condition1) \x7b \x7d else if (condition2) \x7b \x7d else \x7b \x7d"),
  ("variable", "var myVariable = value;"),
  ("return", "return value;"),
  ("string", "string myString = \"\";"),
  ("int", "int myInt = 0;"),
  ("bool", "bool myBool = false;"),
  ("double", "double myDouble = 0.0;")]

/-- The properties of a new element of a type; most types have none. -/
def startingProperties : List (String × List (String × String)) := [
  ("console.writeline", [("message", "Hello World")]),
  ("console.write", [("message", "Hello")]),
  ("for", [("variable", "i"), ("start", "0"), ("end", "10"), ("increment", "1")]),
  ("while", [("condition", "condition")]),
  ("if", [("condition", "condition")]),
  ("variable", [("type", "var"), ("name", "myVariable"), ("value", "value")]),
  ("return", [("value", "value")])]

/-- The element of a type that is dropped at a time. -/
def newElement (type : String) (position : Option Position) (timestamp : Int) : Element :=
  { id := type ++ "-" ++ String.ofList (Document.integerText timestamp)
    type := type
    content := (startingContent.lookup type).getD type
    properties :=
      ((startingProperties.lookup type).getD []).map fun (name, value) => (name, .text value)
    position := position }

end Blockwright.Palette
