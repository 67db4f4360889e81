import Blockwright.Schema.Declared
import Blockwright.Schema.Scalar

/-!
# The library's validator

How the program checks documents against the declarations of records.  The checks
follow the declarations; `standard_lawful` says that they do.
-/

namespace Blockwright.Schema

/-- A coordinate that was given. -/
def coordinate (document : Document) : Checked Coordinate :=
  (number document).map .given

/-- A position, coordinates that are not there being unset. -/
def position : Document → Checked Position
  | .mapping entries =>
      Checked.apply ((optional ["x"] .unset coordinate entries).map Position.mk)
        (optional ["y"] .unset coordinate entries)
  | _ => complain (.notModel .position)

/-- Values of any kind under textual keys. -/
def propertyEntries : List (Document × Document) → Checked Properties
  | [] => .valid []
  | (.text name, value) :: rest => (propertyEntries rest).map ((name, value) :: ·)
  | (key, _) :: rest =>
      Checked.apply (.invalid ⟨[.key (keyText key), .key "[key]"], .notText⟩ [])
        (propertyEntries rest)

/-- The properties of an element. -/
def dictionary : Document → Checked Properties
  | .mapping entries => propertyEntries entries
  | _ => complain .notMapping

mutual

/-- An element. -/
def element : Document → Checked Element
  | .mapping entries =>
      let id := optional ["id"] "" text entries
      let type := required "type" text entries
      let content := optional ["content"] "" text entries
      let properties := optional ["properties"] [] (dictionary ∘ nullAsEmpty) entries
      let children := childrenField entries
      let position := optional ["position"] none (nullable position) entries
      ((((id.map Element.mk).apply type).apply content).apply properties).apply children
        |>.apply position
  | _ => complain (.notModel .element)

/-- The children of an element, which need not be there. -/
def childrenField : List (Document × Document) → Checked (Option (List Element))
  | [] => .valid none
  | (key, value) :: rest =>
      if key.isText "children" then
        (children value).below (.key "children")
      else
        childrenField rest

/-- A list of children, or null for none. -/
def children : Document → Checked (Option (List Element))
  | .null => .valid none
  | .list items => (elementItems 0 items).map some
  | _ => complain .notList

/-- The elements of a list from a position on. -/
def elementItems (index : Nat) : List Document → Checked (List Element)
  | [] => .valid []
  | item :: rest =>
      (((element item).below (.index index)).map List.cons).apply
        (elementItems (index + 1) rest)

end

/-- A parameter of a method. -/
def parameter : Document → Checked Parameter
  | .mapping entries =>
      ((required "name" text entries).map Parameter.mk).apply
        (optional ["type"] "string" text entries)
  | _ => complain (.notModel .parameter)

/-- A method. -/
def method : Document → Checked Method
  | .mapping entries =>
      let visibility := optional ["visibility"] "public" text entries
      let isStatic := optional ["isStatic", "is_static"] false bool entries
      let returnType := optional ["returnType", "return_type"] "void" text entries
      let name := optional ["name"] "MyMethod" text entries
      let parameters := optional ["parameters"] [] (list parameter) entries
      let elements := optional ["elements"] [] (list element) entries
      ((((visibility.map Method.mk).apply isStatic).apply returnType).apply name).apply
        parameters |>.apply elements
  | _ => complain (.notModel .method)

/-- A project. -/
def project : Document → Checked Project
  | .mapping entries =>
      let namespaceName := optional ["namespace"] "MyProject" text entries
      let className := optional ["className", "class_name"] "MyClass" text entries
      let language := optional ["language"] Language.csharp.name text entries
      let methods := optional ["methods"] [{}] (list method) entries
      (((namespaceName.map Project.mk).apply className).apply language).apply methods
  | _ => complain (.notModel .project)

/-- A record of a kind. -/
def record : (kind : Kind) → Document → Checked kind.Value
  | .project => project
  | .method => method
  | .parameter => parameter
  | .element => element
  | .position => position

/-- A document checked against what it is declared to be. -/
def declared : (form : Form) → Document → Checked form.Value
  | .text => text
  | .bool => bool
  | .coordinate => coordinate
  | .dictionary => dictionary
  | .list item => list (declared item)
  | .nullable value => nullable (declared value)
  | .record kind => record kind

/-- What a field is where its key is missing. -/
def Field.absent (field : Field) : Checked field.form.Value :=
  match field.default with
  | some value => .valid value
  | none => (complain .missing).below (.key field.name)

/-- The validator of the program, to which all places are alike. -/
def standard : Validator where
  check _ := declared
  read _ field :=
    Schema.field field.names field.absent (declared field.form ∘ field.prepare)

/-! ## What the validator keeps to -/

theorem elementItems_eq_items (index : Nat) (documents : List Document) :
    elementItems index documents = items element index documents := by
  induction documents generalizing index with
  | nil => rw [elementItems, items]
  | cons document rest ih => rw [elementItems, items, ih]

theorem children_eq_nullable : children = nullable (list element) := by
  funext document
  cases document with
  | list documents => rw [children, elementItems_eq_items]; rfl
  | _ => rfl

theorem childrenField_eq_optional (entries : List (Document × Document)) :
    childrenField entries = optional ["children"] none (nullable (list element)) entries := by
  induction entries with
  | nil => rw [childrenField]; rfl
  | cons entry rest ih =>
      obtain ⟨key, value⟩ := entry
      rw [childrenField, ih, children_eq_nullable]
      by_cases named : key.isText "children" = true <;>
        simp [optional, field, present?, Document.valueOf?, named]

/-- A record is read field by field, as its fields are declared. -/
theorem record_mapping (kind : Kind) (entries : List (Document × Document)) :
    record kind (.mapping entries) =
      collect (standard.readAlone · entries) kind.fields (.valid kind.build) := by
  cases kind with
  | project =>
      change project (.mapping entries) = _
      rw [project, ← Checked.valid_apply]
      rfl
  | method =>
      change method (.mapping entries) = _
      rw [method, ← Checked.valid_apply]
      rfl
  | parameter =>
      change parameter (.mapping entries) = _
      rw [parameter, ← Checked.valid_apply]
      rfl
  | element =>
      change element (.mapping entries) = _
      rw [element, childrenField_eq_optional, ← Checked.valid_apply]
      rfl
  | position =>
      change position (.mapping entries) = _
      rw [position, ← Checked.valid_apply]
      rfl

theorem itemsAt_eq_items {α : Type} (check : Document → Checked α) (index : Nat)
    (documents : List Document) :
    itemsAt (fun _ => check) index documents = items check index documents := by
  induction documents generalizing index with
  | nil => rfl
  | cons document rest ih => rw [itemsAt, items, ih]

theorem standard_lawful : standard.Lawful where
  record _ := record_mapping
  present _ field entries name value found := by
    simp only [standard, Schema.field, found, Function.comp_apply]
  omitted _ field entries value nothing default := by
    simp only [standard, Schema.field, nothing, Field.absent, default]
  missing _ field entries nothing default := by
    simp only [standard, Schema.field, nothing, Field.absent, default]
  list _ item documents := (itemsAt_eq_items (declared item) 0 documents).symm
  null _ _ := rfl
  notNull _ _ document other := by
    cases document with
    | null => exact absurd rfl other
    | _ => rfl
  plain _ _ _ _ := rfl
  empty _ := rfl

end Blockwright.Schema
