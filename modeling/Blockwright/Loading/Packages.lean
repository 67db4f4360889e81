import Blockwright.Document.Json
import Blockwright.Document.Yaml.Reader
import Blockwright.Files.Path
import Blockwright.Schema.Project
import Blockwright.Schema.Settings

/-!
# Packages

What reads documents and checks them.  None of it is the library's own, so loading
is written against `Packages` and asks of them what `Packages.Documented` says and
nothing else; `Packages.standard` are those that the program runs with.
-/

namespace Blockwright

/-- A format that documents are written in. -/
inductive Format where
  | json
  | yaml
  deriving DecidableEq, Repr

/-- The format that a project file of a name is written in. -/
def Format.ofPath (path : Path) : Format :=
  let suffix := Text.lower path.suffix
  if suffix = ".yaml" || suffix = ".yml" then .yaml else .json

/-- Why no document is read from a text. -/
inductive ReadingFault where
  /-- The text is malformed, with the report of the reader. -/
  | malformed (report : Text)
  /-- The reader ends with an exception that it is not documented to end with. -/
  | raised (report : Text)
  deriving DecidableEq, Repr

/-- What reads documents and checks them. -/
structure Packages where
  /-- The document that a text holds in a format. -/
  read : Format → Text → Except ReadingFault Document
  /-- The check of projects and their parts. -/
  validator : Schema.Validator
  /-- The check of settings. -/
  settings : Document → Schema.Checked Schema.SettingsRecord
  /-- Settings are declared to have levels of at least one space. -/
  one_le_indentWidth :
    ∀ {document : Document} {record : Schema.SettingsRecord},
      settings document = .valid record → 1 ≤ record.indentWidth
  /-- The text that reports what is wrong with a document. -/
  report : Schema.Model → Document → List Schema.Violation → Text
  /-- The exception, if any, that a check of a document ends with in the place of an outcome. -/
  raised? : Schema.Model → Document → Option Text

namespace Packages

/-- Reading and checking fail in the ways that are documented, and in no other. -/
structure Documented (packages : Packages) : Prop where
  read : ∀ format text report, packages.read format text ≠ .error (.raised report)
  check : ∀ model document, packages.raised? model document = none

theorem one_le_toNat
    {width : Int}
    (fits : 1 ≤ width) :
    1 ≤ width.toNat := by
  omega

/-- Settings with the bound that they were checked against. -/
def settingsOf
    (record : Schema.SettingsRecord)
    (fits : 1 ≤ record.indentWidth) : Settings where
  indentWidth := record.indentWidth.toNat
  inlineUtilities := record.inlineUtilities
  one_le_indentWidth := one_le_toNat fits

/-- The settings that a document describes, checked. -/
def checkSettings (packages : Packages) (document : Document) : Schema.Checked Settings :=
  match checked : packages.settings document with
  | .valid record => .valid (settingsOf record (packages.one_le_indentWidth checked))
  | .invalid first others => .invalid first others

/-- The report that lists violations with their places. -/
def listing (violations : List Schema.Violation) : Text :=
  List.intercalate "; " (violations.map fun violation =>
    violation.place ++ ": " ++ violation.complaint.message)

/-- The packages that the program runs with. -/
def standard : Packages where
  read format text :=
    match format with
    | .json => (Json.read text).mapError fun fault => .malformed fault.message
    | .yaml => (Yaml.read text).mapError fun fault => .malformed fault.message
  validator := Schema.standard
  settings := Schema.settings
  one_le_indentWidth := Schema.one_le_of_settings_eq_valid
  report _ _ := listing
  raised? _ _ := none

theorem standard_documented : standard.Documented where
  read format text report := by
    cases format with
    | json =>
        change (Json.read text).mapError _ ≠ _
        cases Json.read text <;> exact nofun
    | yaml =>
        change (Yaml.read text).mapError _ ≠ _
        cases Yaml.read text <;> exact nofun
  check _ _ := rfl

end Packages

end Blockwright
