import Blockwright.Dialect.CSharp
import Blockwright.Dialect.Java
import Blockwright.Dialect.JavaScript
import Blockwright.Dialect.Python
import Blockwright.Language
import Blockwright.Layout
import Blockwright.Text.Naming

/-!
# The dialect of a language

What each language contributes to a source file, looked up by the language.
-/

namespace Blockwright.Language

/-- The template of a statement in a language. -/
def statement : Language → Statement → Template
  | .csharp => Dialect.CSharp.statement
  | .java => Dialect.Java.statement
  | .javascript => Dialect.JavaScript.statement
  | .python => Dialect.Python.statement

/-- The block headers of a language. -/
def headers : Language → Headers
  | .csharp => Dialect.CSharp.headers
  | .java => Dialect.Java.headers
  | .javascript => Dialect.JavaScript.headers
  | .python => Dialect.Python.headers

/-- The lines of a utility in a language. -/
def utilityLines : Language → Utility → List String
  | .csharp => Dialect.CSharp.utility
  | .java => Dialect.Java.utility
  | .javascript => Dialect.JavaScript.utility
  | .python => Dialect.Python.utility

/-- The source of a utility in a language. -/
def utilitySource (language : Language) (utility : Utility) : Text :=
  List.intercalate ['\n'] ((language.utilityLines utility).map String.toList)

/-- What opens a comment in a language. -/
def commentMark : Language → Text
  | .python => "#"
  | _ => "//"

/-- How a language lays out blocks. -/
def style : Language → Layout.Style
  | .csharp => .braces .ownLine
  | .java => .braces .headerLine
  | .javascript => .braces .headerLine
  | .python => .indentation

/-- The name that a utility has in a language. -/
def utilityName (language : Language) (utility : Utility) : Text :=
  match language with
  | .csharp => Text.pascalCase utility.name
  | .java => Text.camelCase utility.name
  | .javascript => Text.camelCase utility.name
  | .python => Text.underscored utility.name

end Blockwright.Language
