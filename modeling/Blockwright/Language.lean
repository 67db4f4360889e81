import Blockwright.Document.Basic

/-!
# Target languages

The four languages that projects are written in.  A project names its language
by text; a text that names none of the four means C#, so that every project has
a target.
-/

namespace Blockwright

/-- A language that source files are written in. -/
inductive Language where
  | csharp
  | java
  | javascript
  | python
  deriving DecidableEq, Repr

namespace Language

/-- Every language. -/
def all : List Language := [.csharp, .java, .javascript, .python]

/-- The text that names a language in a project. -/
def name : Language → String
  | .csharp => "csharp"
  | .java => "java"
  | .javascript => "javascript"
  | .python => "python"

/-- The language that a text names. -/
def ofName? (name : String) : Option Language :=
  all.find? (·.name = name)

/-- The language that a text means: the one it names, or else C#. -/
def resolve (name : String) : Language :=
  (ofName? name).getD .csharp

/-- The language that a document means: a text means what it names, and anything else C#. -/
def ofDocument : Document → Language
  | .text name => resolve name
  | _ => .csharp

/-- The suffix of a language's source files. -/
def extension : Language → String
  | .csharp => "cs"
  | .java => "java"
  | .javascript => "js"
  | .python => "py"

/-- The suffix of a source file in the language of a name; an unknown name gives a text file. -/
def extensionOf (name : String) : String :=
  ((ofName? name).map extension).getD "txt"

theorem ofName?_name (language : Language) : ofName? language.name = some language := by
  cases language <;> decide

theorem resolve_name (language : Language) : resolve language.name = language := by
  simp [resolve, ofName?_name]

end Language

end Blockwright
