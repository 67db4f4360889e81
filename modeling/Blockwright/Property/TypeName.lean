import Blockwright.Language

/-!
# Type names

Projects name types in a vocabulary of their own, which every language spells in
its own way.  A name outside the vocabulary is a type of the user's and is kept
as it is.
-/

namespace Blockwright.TypeName

/-- A table from type names to their spellings. -/
abbrev Table := List (String × String)

/-- The spellings of C#. -/
def csharp : Table := [
  ("string", "string"), ("int", "int"), ("long", "long"), ("float", "float"),
  ("double", "double"), ("decimal", "decimal"), ("bool", "bool"), ("boolean", "bool"),
  ("char", "char"), ("byte", "byte"), ("short", "short"), ("object", "object"),
  ("void", "void")]

/-- The spellings of Java. -/
def java : Table := [
  ("string", "String"), ("int", "int"), ("long", "long"), ("float", "float"),
  ("double", "double"), ("decimal", "BigDecimal"), ("bool", "boolean"), ("char", "char"),
  ("byte", "byte"), ("short", "short"), ("object", "Object"), ("void", "void")]

/-- The spellings of Java's type arguments, which are reference types. -/
def javaBoxed : Table := [
  ("string", "String"), ("int", "Integer"), ("long", "Long"), ("float", "Float"),
  ("double", "Double"), ("decimal", "BigDecimal"), ("bool", "Boolean"),
  ("boolean", "Boolean"), ("char", "Character"), ("byte", "Byte"), ("short", "Short"),
  ("object", "Object")]

/-- The spellings of JavaScript's annotations. -/
def javascript : Table := [
  ("string", "string"), ("int", "number"), ("long", "number"), ("float", "number"),
  ("double", "number"), ("decimal", "number"), ("bool", "boolean"), ("char", "string"),
  ("byte", "number"), ("short", "number"), ("object", "Object"), ("void", "void")]

/-- The spellings of Python's annotations. -/
def python : Table := [
  ("string", "str"), ("int", "int"), ("long", "int"), ("float", "float"),
  ("double", "float"), ("decimal", "Decimal"), ("bool", "bool"), ("char", "str"),
  ("byte", "int"), ("short", "int"), ("object", "object"), ("void", "None")]

/-- The table of a language, for type arguments or for other places. -/
def table : Language → Bool → Table
  | .csharp, _ => csharp
  | .java, false => java
  | .java, true => javaBoxed
  | .javascript, _ => javascript
  | .python, _ => python

/-- The spelling of a type name in a language. -/
def spell (language : Language) (boxed : Bool) (name : Text) : Text :=
  match (table language boxed).find? fun (known, _) => known.toList = name with
  | some (_, spelling) => spelling
  | none => name

end Blockwright.TypeName
