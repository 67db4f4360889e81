import Blockwright.Loading.Load
import Blockwright.Proofs.Schema.Fields

/-!
# Records inside a project

A route leads from a record down to one inside it, through the lists that hold methods,
parameters, elements and children.  Whatever lawful validator is used, a report shows
the record at the end of every route, and a project that is built holds there what the
record alone is read as.  So the records of a project are checked without regard to each
other: what is wrong with one hides nothing in another, and changes nothing in it.
-/

namespace Blockwright

/-- The part of a document that steps lead to, if they lead anywhere. -/
def Document.part? : List Schema.Step → Document → Option Document
  | [], document => some document
  | .key name :: steps, .mapping entries =>
      (valueOf? (String.ofList name) entries).bind (part? steps)
  | .index index :: steps, .list documents => documents[index]?.bind (part? steps)
  | _ :: _, _ => none

namespace Schema

/-! ## One step further down -/

theorem part?_key_eq_some_iff
    (name : String) (steps : List Step) (document part : Document) :
    Document.part? (.key name :: steps) document = some part ↔
      ∃ entries value,
        document = .mapping entries ∧
          Document.valueOf? name entries = some value ∧
            Document.part? steps value = some part := by
  cases document <;> simp [Document.part?, Option.bind_eq_some_iff]

theorem part?_index_eq_some_iff
    (index : Nat) (steps : List Step) (document part : Document) :
    Document.part? (.index index :: steps) document = some part ↔
      ∃ documents item,
        document = .list documents ∧
          documents[index]? = some item ∧
            Document.part? steps item = some part := by
  cases document <;> simp [Document.part?, Option.bind_eq_some_iff]

/-- Steps into a list under a key lead into one of its items. -/
theorem exists_of_part?_listed
    {name : String} {index : Nat} {steps : List Step} {document part : Document}
    (reached : Document.part? ([.key name, .index index] ++ steps) document = some part) :
    ∃ entries documents item,
      document = .mapping entries ∧
        Document.valueOf? name entries = some (.list documents) ∧
          documents[index]? = some item ∧
            Document.part? steps item = some part := by
  obtain ⟨entries, value, rfl, found, inside⟩ := (part?_key_eq_some_iff _ _ _ _).1 reached
  obtain ⟨documents, item, rfl, held, further⟩ := (part?_index_eq_some_iff _ _ _ _).1 inside
  exact ⟨entries, documents, item, rfl, found, held, further⟩

theorem present?_singleton
    {name : String} {entries : List (Document × Document)} {value : Document}
    (found : Document.valueOf? name entries = some value) :
    present? [name] entries = some (name, value) := by
  simp [present?, found]

theorem exists_of_items_eq_valid
    {α : Type} {check : Document → Checked α} {start : Nat}
    {documents : List Document} {values : List α}
    (valid : items check start documents = .valid values)
    {index : Nat} {document : Document}
    (held : documents[index]? = some document) :
    ∃ value, check document = .valid value ∧ values[index]? = some value := by
  induction documents generalizing start values index with
  | nil => simp at held
  | cons first rest ih =>
      simp only [items, Checked.apply_eq_valid_iff, Checked.map_eq_valid_iff,
        Checked.below_eq_valid_iff] at valid
      obtain ⟨_, ⟨value, firstValid, rfl⟩, others, restValid, rfl⟩ := valid
      cases index with
      | zero =>
          obtain rfl : first = document := by simpa using held
          exact ⟨value, firstValid, rfl⟩
      | succ index => exact ih restValid held

/-! ## Lists of records -/

/-- The lists of records in records, by the kind of the owner and the kind of the items. -/
inductive Holding : Kind → Kind → Type where
  | methods : Holding .project .method
  | parameters : Holding .method .parameter
  | elements : Holding .method .element
  | children : Holding .element .element

namespace Holding

/-- The field that a list of records is declared as. -/
def field {owner item : Kind} : Holding owner item → Field
  | .methods => { name := "methods", form := .list (.record .method), default := some [{}] }
  | .parameters =>
      { name := "parameters", form := .list (.record .parameter), default := some [] }
  | .elements => { name := "elements", form := .list (.record .element), default := some [] }
  | .children =>
      { name := "children", form := .nullable (.list (.record .element)), default := some none }

/-- The key that a list of records stands under. -/
def key {owner item : Kind} (holding : Holding owner item) : String :=
  holding.field.name

/-- The items of a list of records, none if there is no list. -/
def items {owner item : Kind} : Holding owner item → owner.Value → List item.Value
  | .methods, (project : Project) => project.methods
  | .parameters, (method : Method) => method.parameters
  | .elements, (method : Method) => method.elements
  | .children, (element : Element) => element.children.getD []

variable {owner item : Kind} (holding : Holding owner item)

/-- The value of the field that a list of records is. -/
def listed {owner item : Kind} :
    (holding : Holding owner item) → List item.Value → holding.field.form.Value
  | .methods, records => records
  | .parameters, records => records
  | .elements, records => records
  | .children, records => some records

/-- The list of records that a value of the field is, none if it is no list. -/
def records {owner item : Kind} :
    (holding : Holding owner item) → holding.field.form.Value → List item.Value
  | .methods, records => records
  | .parameters, records => records
  | .elements, records => records
  | .children, records => Option.getD records []

theorem records_listed (records : List item.Value) :
    holding.records (holding.listed records) = records := by
  cases holding <;> rfl

theorem field_mem_fields : holding.field ∈ owner.fields := by
  cases holding <;> simp [field, Kind.fields]

theorem names_field : holding.field.names = [holding.key] := by
  cases holding <;> rfl

theorem prepare_field (document : Document) : holding.field.prepare document = document := by
  cases holding <;> rfl

variable {validator : Validator} (lawful : validator.Lawful)
  {entries : List (Document × Document)} {documents : List Document}

theorem wrong_list (documents : List Document) :
    holding.field.form.wrong validator (.list documents) =
      (Form.list (.record item)).wrong validator (.list documents) := by
  cases holding <;> rfl

include lawful

theorem check_list (documents : List Document) :
    validator.alone holding.field.form (.list documents) =
      (Schema.items (validator.alone (.record item)) 0 documents).map holding.listed := by
  have plain := lawful.alone_list (.record item) documents
  cases holding with
  | children =>
      rw [← plain]
      exact lawful.alone_notNull (.list (.record .element)) (.list documents) nofun
  | _ =>
      refine plain.trans ?_
      cases Schema.items (validator.alone (.record _)) 0 documents <;> rfl

/-- A record shows the items of its lists of records. -/
theorem shows_item
    (found : Document.valueOf? holding.key entries = some (.list documents))
    {index : Nat} {document : Document}
    (held : documents[index]? = some document) :
    Shows (validator.alone (.record owner) (.mapping entries)).violations
      [.key holding.key, .index index] (validator.alone (.record item) document).violations := by
  have outer : Shows (owner.fields.flatMap fun field => field.wrong validator entries)
      [.key holding.key] (holding.field.form.wrong validator (.list documents)) := by
    have present : present? holding.field.names entries = some (holding.key, .list documents) := by
      rw [holding.names_field, present?_singleton found]
    have shown := shows_field validator owner.nodup_names holding.field_mem_fields present
    rwa [holding.prepare_field] at shown
  rw [holding.wrong_list] at outer
  rw [Kind.violations_record lawful]
  exact outer.trans (Form.shows_item validator (.record item) held)

/-- A record that is built holds in its lists of records what their fields are read as. -/
theorem exists_read_eq_valid
    {value : owner.Value}
    (valid : validator.alone (.record owner) (.mapping entries) = .valid value) :
    ∃ stored : holding.field.form.Value,
      validator.readAlone holding.field entries = .valid stored ∧
        holding.records stored = holding.items value := by
  rw [lawful.alone_record] at valid
  cases holding with
  | methods =>
      simp only [collect, Kind.fields, Checked.apply_eq_valid_iff] at valid
      obtain ⟨_, ⟨_, ⟨_, ⟨_, built, _, -, rfl⟩, _, -, rfl⟩, _, -, rfl⟩, methods, read, rfl⟩ := valid
      obtain rfl := Checked.valid.inj built
      exact ⟨methods, read, rfl⟩
  | parameters =>
      simp only [collect, Kind.fields, Checked.apply_eq_valid_iff] at valid
      obtain ⟨_, ⟨_, ⟨_, ⟨_, ⟨_, ⟨_, built, _, -, rfl⟩, _, -, rfl⟩, _, -, rfl⟩, _, -, rfl⟩,
        parameters, read, rfl⟩, _, -, rfl⟩ := valid
      obtain rfl := Checked.valid.inj built
      exact ⟨parameters, read, rfl⟩
  | elements =>
      simp only [collect, Kind.fields, Checked.apply_eq_valid_iff] at valid
      obtain ⟨_, ⟨_, ⟨_, ⟨_, ⟨_, ⟨_, built, _, -, rfl⟩, _, -, rfl⟩, _, -, rfl⟩, _, -, rfl⟩,
        _, -, rfl⟩, elements, read, rfl⟩ := valid
      obtain rfl := Checked.valid.inj built
      exact ⟨elements, read, rfl⟩
  | children =>
      simp only [collect, Kind.fields, Checked.apply_eq_valid_iff] at valid
      obtain ⟨_, ⟨_, ⟨_, ⟨_, ⟨_, ⟨_, built, _, -, rfl⟩, _, -, rfl⟩, _, -, rfl⟩, _, -, rfl⟩,
        children, read, rfl⟩, _, -, rfl⟩ := valid
      obtain rfl := Checked.valid.inj built
      exact ⟨children, read, rfl⟩

/-- A record that is built holds its lists of records as they are read one by one. -/
theorem items_eq_valid
    {value : owner.Value}
    (valid : validator.alone (.record owner) (.mapping entries) = .valid value)
    (found : Document.valueOf? holding.key entries = some (.list documents)) :
    Schema.items (validator.alone (.record item)) 0 documents = .valid (holding.items value) := by
  obtain ⟨stored, read, held⟩ := holding.exists_read_eq_valid lawful valid
  have present : present? holding.field.names entries = some (holding.key, .list documents) := by
    rw [holding.names_field, present?_singleton found]
  rw [lawful.readAlone_present _ _ _ _ present, Checked.below_eq_valid_iff, holding.prepare_field,
    holding.check_list lawful, Checked.map_eq_valid_iff] at read
  obtain ⟨records, checked, rfl⟩ := read
  rw [checked, ← held, records_listed]

end Holding

/-! ## Routes -/

/-- The ways from a record of one kind to a record inside it, by the kind at the end. -/
inductive Route (goal : Kind) : Kind → Type where
  /-- The record itself. -/
  | here : Route goal goal
  /-- Into an item of one of the record's lists, and on from there. -/
  | into {owner item : Kind}
      (holding : Holding owner item) (index : Nat) (rest : Route goal item) : Route goal owner

namespace Route

variable {goal top : Kind}

/-- The steps of a route. -/
def steps {top : Kind} : Route goal top → List Step
  | .here => []
  | .into holding index rest => [.key holding.key, .index index] ++ rest.steps

/-- What a record holds at the end of a route, if it reaches that far. -/
def follow? {top : Kind} : Route goal top → top.Value → Option goal.Value
  | .here, value => some value
  | .into holding index rest, value => (holding.items value)[index]?.bind rest.follow?

variable {validator : Validator} (lawful : validator.Lawful)

include lawful

/-- The report on a record shows what is wrong with the record at the end of a route. -/
theorem shows_part
    (route : Route goal top) {document part : Document}
    (reached : Document.part? route.steps document = some part) :
    Shows (validator.alone (.record top) document).violations route.steps
      (validator.alone (.record goal) part).violations := by
  induction route generalizing document with
  | here =>
      obtain rfl := Option.some.inj reached
      exact Shows.refl _
  | into holding index rest ih =>
      obtain ⟨entries, documents, item, rfl, found, held, further⟩ :=
        exists_of_part?_listed reached
      exact (holding.shows_item lawful found held).trans (ih further)

/-- A record that is built holds at the end of a route what is read there alone. -/
theorem exists_follow?_eq_some
    (route : Route goal top) {document part : Document} {value : top.Value}
    (reached : Document.part? route.steps document = some part)
    (valid : validator.alone (.record top) document = .valid value) :
    ∃ stored,
      validator.alone (.record goal) part = .valid stored ∧
        route.follow? value = some stored := by
  induction route generalizing document with
  | here =>
      obtain rfl := Option.some.inj reached
      exact ⟨value, valid, rfl⟩
  | into holding index rest ih =>
      obtain ⟨entries, documents, item, rfl, found, held, further⟩ :=
        exists_of_part?_listed reached
      obtain ⟨inner, innerValid, place⟩ :=
        exists_of_items_eq_valid (holding.items_eq_valid lawful valid found) held
      obtain ⟨stored, storedValid, followed⟩ := ih further innerValid
      exact ⟨stored, storedValid, by rw [follow?, place]; exact followed⟩

end Route

end Schema

namespace Loading

open Schema

/-- What is listed as wrong with a project that was to be read. -/
def reported : Except LoadFault Project → List Violation
  | .error (.refused refusal) => refusal.violations
  | _ => []

section Project

variable {packages : Packages} (documented : packages.Documented)

include documented

/-- Checks that fail only as documented end with a value or with what is wrong. -/
theorem accept_eq
    {α : Type} (subject : Subject) (path : Option Path) (document : Document)
    (outcome : Checked α) :
    accept packages subject path document outcome =
      match outcome with
      | .valid value => .ok value
      | .invalid first others =>
          .error (.refused ⟨subject, path, .invalid (first :: others)
            (packages.report subject.model document (first :: others))⟩) := by
  unfold accept
  rw [documented.check]
  cases outcome <;> rfl

theorem reported_project (path : Option Path) (entries : List (Document × Document)) :
    reported (project packages path (.mapping entries)) =
      (packages.validator.alone (.record .project) (.mapping entries)).violations := by
  rw [project, accept_eq documented]
  cases packages.validator.alone (.record .project) (.mapping entries) <;> rfl

theorem project_eq_ok_iff
    (path : Option Path) (entries : List (Document × Document)) (built : Project) :
    project packages path (.mapping entries) = .ok built ↔
      packages.validator.alone (.record .project) (.mapping entries) = .valid built := by
  rw [project, accept_eq documented]
  cases packages.validator.alone (.record .project) (.mapping entries) <;> simp

end Project

/-- The outcome of reading a project, by what each record in it is on its own. -/
structure ContextFree
    (validator : Validator) (entries : List (Document × Document))
    (outcome : Except LoadFault Project) : Prop where
  /-- Under the steps to a record the report lists what is wrong with the record alone. -/
  located :
    ∀ (kind : Kind) (route : Route kind .project) (part : Document),
      Document.part? route.steps (.mapping entries) = some part →
        (reported outcome).filter (Violation.isUnder route.steps) =
          (validator.alone (.record kind) part).violations.map (Violation.beneath route.steps)
  /-- The whole report goes through the fields of the project in their order. -/
  whole :
    reported outcome = Kind.project.fields.flatMap fun field => field.wrong validator entries
  /-- A project is built just if nothing is reported. -/
  accepted : (∃ built, outcome = .ok built) ↔ reported outcome = []
  /-- A project that is built holds at the end of a route what is read there alone. -/
  stored :
    ∀ built : Project,
      outcome = .ok built →
        ∀ (kind : Kind) (route : Route kind .project) (part : Document),
          Document.part? route.steps (.mapping entries) = some part →
            ∃ value,
              validator.alone (.record kind) part = .valid value ∧
                route.follow? built = some value

/--
Every project is checked record by record: no record hides or changes what is wrong
with another, and inside each the report goes through the fields in their order.
-/
theorem project_contextFree
    {packages : Packages} (documented : packages.Documented) (lawful : packages.validator.Lawful)
    (path : Option Path) (entries : List (Document × Document)) :
    ContextFree packages.validator entries (project packages path (.mapping entries)) ∧
      ∀ (kind : Kind) (inner : List (Document × Document)),
        (packages.validator.alone (.record kind) (.mapping inner)).violations =
          kind.fields.flatMap fun field => field.wrong packages.validator inner := by
  refine ⟨⟨?_, ?_, ?_, ?_⟩, Kind.violations_record lawful⟩
  · intro kind route part reached
    rw [reported_project documented]
    exact (route.shows_part lawful reached).filter_eq
  · rw [reported_project documented, Kind.violations_record lawful]
  · rw [reported_project documented, Checked.violations_eq_nil_iff]
    exact exists_congr (project_eq_ok_iff documented path entries)
  · intro built outcome kind route part reached
    exact route.exists_follow?_eq_some lawful reached
      ((project_eq_ok_iff documented path entries built).1 outcome)

/-- A project with one method whose only element has two children. -/
def twoChildren (first second : Document) : List (Document × Document) :=
  [(.text "methods", .list [.mapping [(.text "elements", .list [.mapping [
    (.text "type", .text "if"), (.text "children", .list [first, second])]])]])]

/-- The way to a child of the only element. -/
def toChild (index : Nat) : Route .element .project :=
  .into .methods 0 (.into .elements 0 (.into .children index .here))

/--
A child that is no mapping does not hide that its sibling lacks a type, and children
that are sound are stored as they are read alone.
-/
theorem twoChildren_contextFree :
    let packages := Packages.standard
    (packages.Documented ∧ packages.validator.Lawful) ∧
      (reported (project packages none (.mapping (twoChildren .null (.mapping []))))).filter
          (Violation.isUnder (toChild 1).steps) =
        [⟨(toChild 1).steps ++ [.key "type"], .missing⟩] ∧
      ∃ built child,
        project packages none
            (.mapping (twoChildren (.mapping [(.text "type", .text "break")])
              (.mapping [(.text "type", .text "continue")]))) = .ok built ∧
          packages.validator.alone (.record .element)
              (.mapping [(.text "type", .text "continue")]) = .valid child ∧
            (toChild 1).follow? built = some child := by
  intro packages
  have documented : packages.Documented := Packages.standard_documented
  have lawful : packages.validator.Lawful := standard_lawful
  refine ⟨⟨documented, lawful⟩, ?_, ?_⟩
  · exact (project_contextFree documented lawful none _).1.located .element (toChild 1)
      (.mapping []) rfl
  · have sound :=
      (project_contextFree documented lawful none
        (twoChildren (.mapping [(.text "type", .text "break")])
          (.mapping [(.text "type", .text "continue")]))).1
    obtain ⟨built, outcome⟩ := sound.accepted.2 rfl
    obtain ⟨child, checked, followed⟩ := sound.stored built outcome .element (toChild 1) _ rfl
    exact ⟨built, child, outcome, checked, followed⟩

end Loading

end Blockwright
