import Blockwright.Project.Basic
import Blockwright.Property.Default
import Blockwright.Property.TypeName
import Blockwright.Template
import Blockwright.Text.Quoted

/-!
# Property values

The text that an element's property contributes to a source file: the value
that the project sets, or else the default of the element's type.  A value that
is null or the empty text counts as not set.
-/

namespace Blockwright

/-- The text of a property's value: a truth value by the language's keyword, others as they read. -/
def Document.scalarText (language : Language) : Document → Text
  | .bool value => (if value then Keyword.truth else Keyword.falsity).spell language
  | other => other.plain

/-- Whether a value counts as not set. -/
def Document.isOpen : Document → Bool
  | .null => true
  | .text value => value = ""
  | _ => false

/-- What the properties of one element are read from, in one language. -/
structure Fields where
  language : Language
  type : String
  properties : Properties

namespace Fields

/-- The value that the project sets for a property, if it does. -/
def set? (fields : Fields) (property : Text) : Option Document :=
  (fields.properties.get? property).filter (!·.isOpen)

/-- The text of a property. -/
def text (fields : Fields) (property : Text) : Text :=
  match fields.set? property with
  | some value => value.scalarText fields.language
  | none => defaultText fields.language fields.type property

/-- The text that fills a slot. -/
def slot (fields : Fields) : Slot → Text
  | .field name => fields.text name
  | .quoted name => Text.quote (fields.text name)
  | .native name => TypeName.spell fields.language false (fields.text name)
  | .boxed name => TypeName.spell fields.language true (fields.text name)

/-- The text that fills a slot when some names are given texts of their own. -/
def slotWith (fields : Fields) (extra : List (Text × Text)) (slot : Slot) : Text :=
  match extra.find? (·.1 = slot.key) with
  | some (_, text) => text
  | none => fields.slot slot

/-- A template filled from the properties. -/
def fill (fields : Fields) (template : Template) : Text :=
  template.fill fields.slot

/-- How a counting loop advances its variable, as a statement of the brace languages. -/
def stepText (fields : Fields) : Text :=
  let increment := fields.text "increment"
  if increment = "1" then
    fields.text "variable" ++ "++"
  else
    fields.text "variable" ++ " += " ++ increment

/-- The values that a counting loop visits, as a range of Python. -/
def rangeText (fields : Fields) : Text :=
  let bounds := fields.text "start" ++ ", " ++ fields.text "end"
  let increment := fields.text "increment"
  let bounds := if increment = "1" then bounds else bounds ++ ", " ++ increment
  "range(" ++ bounds ++ ")"

/-- The two texts that headers of counting loops use beside the properties. -/
def loopTexts (fields : Fields) : List (Text × Text) := [
  ("step", fields.stepText),
  ("range", fields.rangeText)]

end Fields

/-- What the properties of an element are read from. -/
def Element.fields (language : Language) (element : Element) : Fields :=
  ⟨language, element.type, element.properties⟩

end Blockwright
