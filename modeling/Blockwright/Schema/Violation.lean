import Blockwright.Document.Basic

/-!
# Violations

Checking a document against what a project or a settings file must look like
either builds the value or lists everything that is wrong with the document.  A
violation says where and what.  Checks of several parts are combined so that no
part hides the violations of another, in the order of the parts.
-/

namespace Blockwright.Schema

/-- One step from a document into a part of it. -/
inductive Step where
  /-- Into the value under a key. -/
  | key (name : Text)
  /-- Into the item at a position. -/
  | index (position : Nat)
  deriving DecidableEq, Repr

/-- The text of a step. -/
def Step.text : Step → Text
  | .key name => name
  | .index position => toString position

/-- The text by which a key that is no text is named in the place of a violation. -/
def keyText (key : Document) : Text :=
  match key.numeric?, key with
  | some n, .bool _ => Document.integerText n
  | _, other => other.plain

/-- The kinds of records that documents describe. -/
inductive Model where
  | element
  | position
  | parameter
  | method
  | project
  | settings
  deriving DecidableEq, Repr

/-- The name of a record kind in reports. -/
def Model.name : Model → String
  | .element => "CodeElement"
  | .position => "Position"
  | .parameter => "Parameter"
  | .method => "Method"
  | .project => "ProjectData"
  | .settings => "GeneratorConfig"

/-- What is wrong with a part of a document. -/
inductive Complaint where
  | missing
  | notText
  | notBool
  | unreadableBool
  | notInteger
  | unreadableInteger
  | fractional
  | notFinite
  | oversized
  | tooSmall
  | notNumber
  | unreadableNumber
  | notMapping
  | notList
  | notModel (model : Model)
  | unknownKey
  | keyNotText
  /-- Any other complaint, by its code and its wording. -/
  | other (code wording : String)
  deriving DecidableEq, Repr

/-- The short code of a complaint. -/
def Complaint.code : Complaint → String
  | .missing => "missing"
  | .notText => "string_type"
  | .notBool => "bool_type"
  | .unreadableBool => "bool_parsing"
  | .notInteger => "int_type"
  | .unreadableInteger => "int_parsing"
  | .fractional => "int_from_float"
  | .notFinite => "finite_number"
  | .oversized => "int_parsing_size"
  | .tooSmall => "greater_than_equal"
  | .notNumber => "float_type"
  | .unreadableNumber => "float_parsing"
  | .notMapping => "dict_type"
  | .notList => "list_type"
  | .notModel _ => "model_type"
  | .unknownKey => "extra_forbidden"
  | .keyNotText => "invalid_key"
  | .other code _ => code

/-- The wording of a complaint. -/
def Complaint.message : Complaint → String
  | .missing => "Field required"
  | .notText => "Input should be a valid string"
  | .notBool => "Input should be a valid boolean"
  | .unreadableBool => "Input should be a valid boolean, unable to interpret input"
  | .notInteger => "Input should be a valid integer"
  | .unreadableInteger =>
      "Input should be a valid integer, unable to parse string as an integer"
  | .fractional => "Input should be a valid integer, got a number with a fractional part"
  | .notFinite => "Input should be a finite number"
  | .oversized => "Unable to parse input string as an integer, exceeded maximum size"
  | .tooSmall => "Input should be greater than or equal to 1"
  | .notNumber => "Input should be a valid number"
  | .unreadableNumber => "Input should be a valid number, unable to parse string as a number"
  | .notMapping => "Input should be a valid dictionary"
  | .notList => "Input should be a valid list"
  | .notModel model =>
      "Input should be a valid dictionary or instance of " ++ model.name
  | .unknownKey => "Extra inputs are not permitted"
  | .keyNotText => "Keys should be strings"
  | .other _ wording => wording

/-- Something wrong at a place in a document. -/
structure Violation where
  path : List Step
  complaint : Complaint
  deriving DecidableEq, Repr

/-- The place of a violation: its steps with points between them. -/
def Violation.place (violation : Violation) : Text :=
  List.intercalate ['.'] (violation.path.map Step.text)

/-- A violation found below a step, seen from above the step. -/
def Violation.below (step : Step) (violation : Violation) : Violation :=
  { violation with path := step :: violation.path }

/-- The outcome of a check: a value, or everything that is wrong, which is at least one thing. -/
inductive Checked (α : Type) where
  | valid (value : α)
  | invalid (first : Violation) (others : List Violation)

namespace Checked

variable {α β : Type}

/-- Everything that is wrong according to a check. -/
def violations : Checked α → List Violation
  | .valid _ => []
  | .invalid first others => first :: others

/-- A checked value changed by a function. -/
def map (f : α → β) : Checked α → Checked β
  | .valid value => .valid (f value)
  | .invalid first others => .invalid first others

/-- The outcome of a check below a step, seen from above the step. -/
def below (step : Step) : Checked α → Checked α
  | .valid value => .valid value
  | .invalid first others => .invalid (first.below step) (others.map (Violation.below step))

/-- A function and its argument, both checked; the function's violations come first. -/
def apply (function : Checked (α → β)) (argument : Checked α) : Checked β :=
  match function, argument with
  | .valid f, .valid value => .valid (f value)
  | .valid _, .invalid first others => .invalid first others
  | .invalid first others, .valid _ => .invalid first others
  | .invalid first others, .invalid next more => .invalid first (others ++ next :: more)

@[simp]
theorem valid_apply (f : α → β) (argument : Checked α) :
    (Checked.valid f).apply argument = argument.map f := by
  cases argument <;> rfl

@[simp]
theorem violations_valid (value : α) : violations (.valid value) = [] :=
  rfl

@[simp]
theorem violations_map (f : α → β) (outcome : Checked α) :
    (outcome.map f).violations = outcome.violations := by
  cases outcome <;> rfl

@[simp]
theorem violations_below (step : Step) (outcome : Checked α) :
    (outcome.below step).violations = outcome.violations.map (Violation.below step) := by
  cases outcome <;> rfl

@[simp]
theorem violations_apply (function : Checked (α → β)) (argument : Checked α) :
    (function.apply argument).violations = function.violations ++ argument.violations := by
  cases function <;> cases argument <;> simp [apply, violations]

/-- A check finds nothing wrong exactly when it builds a value. -/
theorem violations_eq_nil_iff (outcome : Checked α) :
    outcome.violations = [] ↔ ∃ value, outcome = .valid value := by
  cases outcome <;> simp [violations]

@[simp]
theorem map_eq_valid_iff (f : α → β) (outcome : Checked α) (result : β) :
    outcome.map f = .valid result ↔ ∃ value, outcome = .valid value ∧ f value = result := by
  cases outcome <;> simp [map]

@[simp]
theorem below_eq_valid_iff (step : Step) (outcome : Checked α) (value : α) :
    outcome.below step = .valid value ↔ outcome = .valid value := by
  cases outcome <;> simp [below]

@[simp]
theorem apply_eq_valid_iff
    (function : Checked (α → β)) (argument : Checked α) (result : β) :
    function.apply argument = .valid result ↔
      ∃ f, function = .valid f ∧ ∃ value, argument = .valid value ∧ f value = result := by
  cases function <;> cases argument <;> simp [apply]

end Checked

/-- The outcome of a check with a single complaint about the whole document. -/
def complain {α : Type} (complaint : Complaint) : Checked α :=
  .invalid ⟨[], complaint⟩ []

/-- The items of a list from a position on, checked one by one. -/
def items {α : Type} (check : Document → Checked α) (index : Nat) :
    List Document → Checked (List α)
  | [] => .valid []
  | item :: rest =>
      (((check item).below (.index index)).map List.cons).apply
        (items check (index + 1) rest)

/-- A list whose items are checked one by one. -/
def list {α : Type} (check : Document → Checked α) : Document → Checked (List α)
  | .list documents => items check 0 documents
  | _ => complain .notList

/-- What passes a check, or null for nothing. -/
def nullable {α : Type} (check : Document → Checked α) : Document → Checked (Option α)
  | .null => .valid none
  | other => (check other).map some

/-- The first of several keys that a mapping has, with its value. -/
def present? (names : List String) (entries : List (Document × Document)) :
    Option (String × Document) :=
  names.findSome? fun name => (Document.valueOf? name entries).map (name, ·)

/--
A field that is checked by what stands under the first of its keys, and has an
outcome of its own when none of them is there.
-/
def field {α : Type}
    (names : List String) (absent : Checked α) (check : Document → Checked α)
    (entries : List (Document × Document)) : Checked α :=
  match present? names entries with
  | some (name, value) => (check value).below (.key name)
  | none => absent

/-- A field that must be there. -/
def required {α : Type}
    (name : String) (check : Document → Checked α)
    (entries : List (Document × Document)) : Checked α :=
  field [name] ((complain .missing).below (.key name)) check entries

/-- A field with a value of its own when it is not there. -/
def optional {α : Type}
    (names : List String) (default : α) (check : Document → Checked α)
    (entries : List (Document × Document)) : Checked α :=
  field names (.valid default) check entries

end Blockwright.Schema
