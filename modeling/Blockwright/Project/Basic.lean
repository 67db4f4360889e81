import Blockwright.Language
import Blockwright.Palette.Tag

/-!
# Projects

A project holds one class; the class holds methods, and a method an ordered
list of elements, some of which hold further elements.  The defaults are those
of a project that has just been started.
-/

namespace Blockwright

/-- A coordinate of an element on the canvas; one that was never given is the integer zero. -/
inductive Coordinate where
  | unset
  | given (value : Binary64)
  deriving DecidableEq, Repr

/-- The place of an element on the canvas. -/
structure Position where
  x : Coordinate := .unset
  y : Coordinate := .unset
  deriving DecidableEq, Repr

/-- The properties of an element in the order in which they were set. -/
abbrev Properties := List (String × Document)

namespace Properties

/-- The value of a property. -/
def get? (properties : Properties) (property : Text) : Option Document :=
  (properties.find? fun (name, _) => name.toList = property).map (·.2)

/-- Properties with a value set, in the place of the old value or last. -/
def set (property : String) (value : Document) : Properties → Properties
  | [] => [(property, value)]
  | (name, old) :: rest =>
      if name = property then
        (name, value) :: rest
      else
        (name, old) :: set property value rest

end Properties

/-- One block dropped on the canvas. -/
structure Element where
  id : String := ""
  type : String
  /-- The text shown on the canvas; it is never written. -/
  content : String := ""
  properties : Properties := []
  children : Option (List Element) := none
  position : Option Position := none

/-- A parameter of a method, with its type in the project's vocabulary. -/
structure Parameter where
  name : String
  type : String := "string"
  deriving DecidableEq, Repr

/-- A method of the class. -/
structure Method where
  visibility : String := "public"
  isStatic : Bool := false
  returnType : String := "void"
  name : String := "MyMethod"
  parameters : List Parameter := []
  elements : List Element := []

/-- A project: one class with its methods and the language it is written in. -/
structure Project where
  namespaceName : String := "MyProject"
  className : String := "MyClass"
  language : String := Language.csharp.name
  methods : List Method := [⟨"public", false, "void", "MyMethod", [], []⟩]

/-- The language that a project is written in. -/
def Project.target (project : Project) : Language :=
  Language.resolve project.language

/-- A project in another language. -/
def Project.withLanguage (language : String) (project : Project) : Project :=
  { project with language := language }

/-- The name of the file that a project is written to. -/
def Project.filename (project : Project) : String :=
  project.className ++ "." ++ Language.extensionOf project.language

/-- The tag that an element's type names. -/
def Element.tag? (element : Element) : Option Tag :=
  Tag.ofName? element.type

/-- The block that an element is. -/
def Element.block? (element : Element) : Option Block :=
  element.tag?.bind Tag.block?

/-- Whether an element's children form a nested body. -/
def Element.isBlock (element : Element) : Bool :=
  element.block?.isSome

end Blockwright
