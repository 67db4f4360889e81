import Blockwright.Project.Basic
import Blockwright.Schema.Violation

/-!
# What records are declared to be

A project is made of records of five kinds.  Each kind declares its fields in
order: the spellings of a field's key, what its value must be, and what the field
is where its key is missing.

Documents are checked against these declarations by a `Validator`, which is not
part of the library.  `Validator.Lawful` says what the library relies on.
-/

namespace Blockwright.Schema

/-- The kinds of records that a project is made of. -/
inductive Kind where
  | project
  | method
  | parameter
  | element
  | position
  deriving DecidableEq, Repr

/-- What a record of a kind is read as. -/
@[reducible]
def Kind.Value : Kind → Type
  | .project => Project
  | .method => Method
  | .parameter => Parameter
  | .element => Element
  | .position => Position

/-- What a value may be declared to be. -/
inductive Form where
  | text
  | bool
  /-- A coordinate, which is a number. -/
  | coordinate
  /-- Values of any kind under textual keys. -/
  | dictionary
  | list (item : Form)
  /-- A value, or null for none. -/
  | nullable (value : Form)
  | record (kind : Kind)
  deriving DecidableEq, Repr

/-- What a value of a declared kind is read as. -/
@[reducible]
def Form.Value : Form → Type
  | .text => String
  | .bool => Bool
  | .coordinate => Coordinate
  | .dictionary => Properties
  | .list item => List item.Value
  | .nullable value => Option value.Value
  | .record kind => kind.Value

/-- A field of a record, as it is declared. -/
structure Field where
  /-- The spelling of its key that wins where several are present. -/
  name : String
  /-- The other spellings of its key. -/
  fallbacks : List String := []
  form : Form
  /-- The value of a field that is not there, unless it must be there. -/
  default : Option form.Value
  /-- What is done to a value before it is checked. -/
  prepare : Document → Document := id

/-- The spellings of a field's key. -/
def Field.names (field : Field) : List String :=
  field.name :: field.fallbacks

/-- Null in the place of an empty mapping, seen as one. -/
def nullAsEmpty : Document → Document
  | .null => .mapping []
  | other => other

/-- The fields of the records of a kind, in the order of their declaration. -/
def Kind.fields : Kind → List Field
  | .project => [
      { name := "namespace", form := .text, default := some "MyProject" },
      { name := "className", fallbacks := ["class_name"], form := .text,
        default := some "MyClass" },
      { name := "language", form := .text, default := some Language.csharp.name },
      { name := "methods", form := .list (.record .method), default := some [{}] }]
  | .method => [
      { name := "visibility", form := .text, default := some "public" },
      { name := "isStatic", fallbacks := ["is_static"], form := .bool,
        default := some false },
      { name := "returnType", fallbacks := ["return_type"], form := .text,
        default := some "void" },
      { name := "name", form := .text, default := some "MyMethod" },
      { name := "parameters", form := .list (.record .parameter), default := some [] },
      { name := "elements", form := .list (.record .element), default := some [] }]
  | .parameter => [
      { name := "name", form := .text, default := none },
      { name := "type", form := .text, default := some "string" }]
  | .element => [
      { name := "id", form := .text, default := some "" },
      { name := "type", form := .text, default := none },
      { name := "content", form := .text, default := some "" },
      { name := "properties", form := .dictionary, default := some [],
        prepare := nullAsEmpty },
      { name := "children", form := .nullable (.list (.record .element)),
        default := some none },
      { name := "position", form := .nullable (.record .position), default := some none }]
  | .position => [
      { name := "x", form := .coordinate, default := some .unset },
      { name := "y", form := .coordinate, default := some .unset }]

/-- A function of the values of fields, one argument for each. -/
@[reducible]
def Builder (result : Type) : List Field → Type
  | [] => result
  | field :: rest => field.form.Value → Builder result rest

/-- A record of a kind, built from the values of its fields. -/
def Kind.build : (kind : Kind) → Builder kind.Value kind.fields
  | .project => Project.mk
  | .method => Method.mk
  | .parameter => Parameter.mk
  | .element => Element.mk
  | .position => Position.mk

/-- A function applied to the values of fields that are checked one after another. -/
def collect {result : Type} (read : (field : Field) → Checked field.form.Value) :
    (fields : List Field) → Checked (Builder result fields) → Checked result
  | [], built => built
  | field :: rest, built => collect read rest (built.apply (read field))

/-! ## Validators -/

/--
What checks documents against declarations.  A document is checked at the place that it
stands at in the document that was given.
-/
structure Validator where
  /-- A document checked against what it is declared to be. -/
  check : (place : List Step) → (form : Form) → Document → Checked form.Value
  /-- A field checked in the entries of a mapping. -/
  read :
    (place : List Step) → (field : Field) → List (Document × Document) →
      Checked field.form.Value

namespace Validator

/-- A document checked on its own. -/
def alone (validator : Validator) : (form : Form) → Document → Checked form.Value :=
  validator.check []

/-- A field checked in the entries of a mapping on its own. -/
def readAlone (validator : Validator) :
    (field : Field) → List (Document × Document) → Checked field.form.Value :=
  validator.read []

end Validator

/-- Whether a document of a form is checked by way of its parts. -/
def Form.isParted : Form → Document → Bool
  | .list _, .list _ => true
  | .record _, .mapping _ => true
  | .nullable _, _ => true
  | _, _ => false

/-- The items of a list from a position on, each checked as the item at its position. -/
def itemsAt {α : Type} (check : Nat → Document → Checked α) (index : Nat) :
    List Document → Checked (List α)
  | [] => .valid []
  | item :: rest =>
      (((check index item).below (.index index)).map List.cons).apply
        (itemsAt check (index + 1) rest)

/--
What the library relies on in a validator, place by place: how the check of a record, a
field, a list or a value that may be null goes on to its parts.  Nothing is said of the
values that have no parts but that their place is not looked at: which documents are
texts, truth values, numbers or properties, and what is reported of the others, is left
to the validator.

The laws are asked at every place, so a validator that gives up at some depth does not
keep to them.
-/
structure Validator.Lawful (validator : Validator) : Prop where
  /-- A record is read field by field in the order of declaration, and all that is wrong is listed;
  keys of no field are ignored. -/
  record :
    ∀ (place : List Step) (kind : Kind) (entries : List (Document × Document)),
      validator.check place (.record kind) (.mapping entries) =
        collect (validator.read place · entries) kind.fields (.valid kind.build)
  /-- A field is what stands under the first of its keys that is there; violations are placed under
  that key. -/
  present :
    ∀ (place : List Step) (field : Field) (entries : List (Document × Document)) (name : String)
      (value : Document),
      present? field.names entries = some (name, value) →
        validator.read place field entries =
          (validator.check (place ++ [.key name]) field.form (field.prepare value)).below
            (.key name)
  /-- A field that is not there has its default. -/
  omitted :
    ∀ (place : List Step) (field : Field) (entries : List (Document × Document))
      (value : field.form.Value),
      present? field.names entries = none → field.default = some value →
        validator.read place field entries = .valid value
  /-- A field without a default must be there. -/
  missing :
    ∀ (place : List Step) (field : Field) (entries : List (Document × Document)),
      present? field.names entries = none → field.default = none →
        validator.read place field entries = (complain .missing).below (.key field.name)
  /-- The items of a list are checked one by one, and all that is wrong is listed. -/
  list :
    ∀ (place : List Step) (item : Form) (documents : List Document),
      validator.check place (.list item) (.list documents) =
        itemsAt (fun index => validator.check (place ++ [.index index]) item) 0 documents
  /-- Where null is allowed, it stands for no value. -/
  null :
    ∀ (place : List Step) (form : Form),
      validator.check place (.nullable form) .null = .valid none
  /-- Where null is allowed, other documents are checked as if it were not. -/
  notNull :
    ∀ (place : List Step) (form : Form) (document : Document),
      document ≠ .null →
        validator.check place (.nullable form) document =
          (validator.check place form document).map some
  /-- What has no parts is checked without regard to its place. -/
  plain :
    ∀ (place : List Step) (form : Form) (document : Document),
      form.isParted document = false →
        validator.check place form document = validator.check [] form document
  /-- An empty mapping holds no properties. -/
  empty : ∀ place : List Step, validator.check place .dictionary (.mapping []) = .valid []

end Blockwright.Schema
