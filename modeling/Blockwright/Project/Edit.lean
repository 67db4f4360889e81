import Blockwright.Palette.Starter
import Blockwright.Project.Tree

/-!
# Editing a project

The changes that the editor makes to a project: dropping a new element, setting
a property, removing and moving elements, adding a method and changing the
language.  A place names a list of elements: a method's own, or the children of
an element inside it.  An edit at a place that does not exist changes nothing.
-/

namespace Blockwright

/-- A list of elements in a project: a method, and the way down from its elements. -/
structure Place where
  method : Nat
  path : List Nat
  deriving DecidableEq, Repr

/-- An item put into a list at a position, or last if the list is shorter. -/
def insertItem {α : Type} (item : α) (position : Nat) (items : List α) : List α :=
  items.take position ++ item :: items.drop position

/--
An edit of the list at the end of a path, with what the edit answers.  Elements
on the way that have no children get an empty list of them.
-/
def editElements {α : Type} (edit : List Element → Option (List Element × α)) :
    List Nat → List Element → Option (List Element × α)
  | [], elements => edit elements
  | index :: path, elements => do
      let element ← elements[index]?
      let (children, answer) ← editElements edit path (element.children.getD [])
      return (elements.set index { element with children := some children }, answer)

namespace Project

/-- An edit of the list of elements at a place, with what the edit answers. -/
def edit {α : Type}
    (place : Place) (edit : List Element → Option (List Element × α)) (project : Project) :
    Option (Project × α) := do
  let method ← project.methods[place.method]?
  let (elements, answer) ← editElements edit place.path method.elements
  let method := { method with elements := elements }
  return ({ project with methods := project.methods.set place.method method }, answer)

/-- A new element dropped at the end of a list; the answer is the element. -/
def drop (place : Place) (type : String) (timestamp : Int) (project : Project) :
    Option (Project × Element) :=
  let element := Palette.newElement type none timestamp
  project.edit place fun elements => some (elements ++ [element], element)

/-- A property set on an element of a list; the answer is the element's properties. -/
def setProperty
    (place : Place) (index : Nat) (property : String) (value : Document)
    (project : Project) : Option (Project × Properties) :=
  project.edit place fun elements => do
    let element ← elements[index]?
    let properties := element.properties.set property value
    return (elements.set index { element with properties := properties }, properties)

/-- An element removed from a list; the answer is the element. -/
def remove (place : Place) (index : Nat) (project : Project) : Option (Project × Element) :=
  project.edit place fun elements => do
    let element ← elements[index]?
    return (elements.eraseIdx index, element)

/-- An element taken out of a list and put back at a position; the answer is the list. -/
def move (place : Place) (index position : Nat) (project : Project) :
    Option (Project × List Element) :=
  project.edit place fun elements => do
    let element ← elements[index]?
    let moved := insertItem element position (elements.eraseIdx index)
    return (moved, moved)

/-- A method added after the others. -/
def addMethod (method : Method) (project : Project) : Project :=
  { project with methods := project.methods ++ [method] }

end Project

end Blockwright
