import Blockwright.Files.Tree
import Blockwright.Loading.Packages
import Blockwright.Loading.Refusal

/-!
# Loading

Projects and settings read from files.  A project is written in YAML if its
file is named so, and else in JSON; settings are always written in YAML.
-/

namespace Blockwright

/-- A text whose line ends are all line feeds. -/
def unifyLineEnds : Text → Text
  | [] => []
  | '\r' :: '\n' :: rest => '\n' :: unifyLineEnds rest
  | '\r' :: rest => '\n' :: unifyLineEnds rest
  | c :: rest => c :: unifyLineEnds rest

namespace Loading

variable (packages : Packages)

/-- The value of a check of a document, or a refusal that lists what is wrong. -/
def accept {α : Type}
    (subject : Subject) (path : Option Path) (document : Document)
    (outcome : Schema.Checked α) : Except LoadFault α :=
  match packages.raised? subject.model document, outcome with
  | some report, _ => .error (.crashed (.raised report))
  | none, .valid value => .ok value
  | none, .invalid first others =>
      let violations := first :: others
      let report := packages.report subject.model document violations
      .error (.refused ⟨subject, path, .invalid violations report⟩)

/-- The project that a document describes; it must be a mapping. -/
def project (path : Option Path) (document : Document) : Except LoadFault Project :=
  match document with
  | .mapping entries =>
      accept packages .project path (.mapping entries)
        (packages.validator.alone (.record .project) (.mapping entries))
  | _ => .error (.refused ⟨.project, path, .notMapping⟩)

/-- The settings that a document describes; null stands for the standard ones. -/
def settings (path : Path) (document : Document) : Except LoadFault Settings :=
  match document with
  | .null => .ok .standard
  | .mapping entries =>
      accept packages .settings (some path) (.mapping entries)
        (packages.checkSettings (.mapping entries))
  | _ => .error (.refused ⟨.settings, some path, .notMapping⟩)

/-- The text of a file that was read, or why there is none. -/
def text (subject : Subject) (path : Path) (read : Except FileFault (List UInt8)) :
    Except LoadFault Text :=
  match read with
  | .error (.crashed crash) => .error (.crashed crash)
  | .error (.refused objection) =>
      .error (.refused ⟨subject, some path, .unreadable objection⟩)
  | .ok bytes =>
      match Utf8.decode bytes with
      | .error fault => .error (.crashed (.undecodable fault))
      | .ok decoded => .ok (unifyLineEnds decoded)

/-- The document of a file that was read, or why there is none. -/
def document
    (subject : Subject) (format : Format) (path : Path)
    (read : Except FileFault (List UInt8)) : Except LoadFault Document := do
  let text ← text subject path read
  match packages.read format text with
  | .error (.raised report) => .error (.crashed (.raised report))
  | .error (.malformed report) => .error (.refused ⟨subject, some path, .malformed report⟩)
  | .ok document => .ok document

/-- The project of a file that was read, or why there is none. -/
def projectOf (path : Path) (read : Except FileFault (List UInt8)) :
    Except LoadFault Project := do
  project packages (some path)
    (← document packages .project (Format.ofPath path) path read)

/-- The settings of a file that was read, or why there are none. -/
def settingsOf (path : Path) (read : Except FileFault (List UInt8)) :
    Except LoadFault Settings := do
  settings packages path (← document packages .settings .yaml path read)

end Loading

namespace Host

variable {m : Type → Type} [Monad m]

/-- The project of a file. -/
def loadProject (host : Host m) (packages : Packages) (path : Path) :
    m (Except LoadFault Project) := do
  return Loading.projectOf packages path (← host.read path)

/-- The settings of a file. -/
def loadSettings (host : Host m) (packages : Packages) (path : Path) :
    m (Except LoadFault Settings) := do
  return Loading.settingsOf packages path (← host.read path)

end Host

end Blockwright
