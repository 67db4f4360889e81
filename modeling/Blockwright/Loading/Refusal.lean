import Blockwright.Files.Fault
import Blockwright.Schema.Violation

/-!
# Refused files

Why a project or a settings file is not accepted.  The message of a refusal names the
file and the kind of fault, and adds what the operating system, a reader or a check
reports of it.  Faults that are no refusals end the program with an exception.
-/

namespace Blockwright

/-- What a file is read for. -/
inductive Subject where
  | project
  | settings
  deriving DecidableEq, Repr

/-- The records that a file is read for, by their name in reports. -/
def Subject.model : Subject → Schema.Model
  | .project => .project
  | .settings => .settings

/-- Why a document is not accepted. -/
inductive RefusalCause where
  | unreadable (objection : Objection)
  /-- The reader's report says what is wrong with the text. -/
  | malformed (report : Text)
  | notMapping
  /-- What is wrong with the document, and the report of it. -/
  | invalid (violations : List Schema.Violation) (report : Text)
  deriving DecidableEq, Repr

/-- A document that is not accepted, and the path of its file if it comes from one. -/
structure Refusal where
  subject : Subject
  path : Option Path
  cause : RefusalCause
  deriving DecidableEq, Repr

namespace Refusal

/-- The violations behind a refusal. -/
def violations (refusal : Refusal) : List Schema.Violation :=
  match refusal.cause with
  | .invalid violations _ => violations
  | _ => []

/-- The kind of fault, without the file it is found in. -/
def kind (refusal : Refusal) : String :=
  match refusal.subject, refusal.cause with
  | .project, .unreadable _ => "cannot read file"
  | .settings, .unreadable _ => "cannot read config"
  | .project, .malformed _ => "malformed document"
  | .settings, .malformed _ => "malformed config"
  | .project, .notMapping => "project document must be a mapping"
  | .settings, .notMapping => "config must be a mapping"
  | .project, .invalid _ _ => "invalid project"
  | .settings, .invalid _ _ => "invalid config"

/-- The file and the kind of fault. -/
def summary (refusal : Refusal) : Text :=
  match refusal.path with
  | some path => path.text ++ ": " ++ refusal.kind
  | none => refusal.kind

/-- What is reported of the fault beside its kind. -/
def detail? (refusal : Refusal) : Option Text :=
  match refusal.cause with
  | .unreadable objection => some objection.report
  | .malformed report => some report
  | .notMapping => none
  | .invalid _ report => some report

/-- The summary and what is reported of the fault. -/
def message (refusal : Refusal) : Text :=
  match refusal.detail? with
  | some detail => refusal.summary ++ ": " ++ detail
  | none => refusal.summary

end Refusal

/-- Why loading a file failed. -/
inductive LoadFault where
  /-- The file is refused. -/
  | refused (refusal : Refusal)
  /-- Loading ends with an exception. -/
  | crashed (crash : Crash)
  deriving DecidableEq, Repr

end Blockwright
