import Blockwright.Command.Arguments
import Blockwright.Loading.Load
import Blockwright.Palette.Category
import Blockwright.Source.Generator

/-!
# Running a command

What a command prints, what it reports, and the status it ends with.  Commands
run on a host; what they do to its files is loading a project, loading settings
and writing one file.  A project is loaded before its settings, and nothing is
written before both are there.
-/

namespace Blockwright.Command

/-- Something that a command reports beside its output. -/
inductive Notice where
  /-- A log record. -/
  | logged (record : Record)
  /-- The project or the settings are refused. -/
  | refused (refusal : Refusal)
  /-- The file cannot be written. -/
  | unwritten (target : Path) (objection : Objection)
  deriving DecidableEq, Repr

/-- The line that a notice is shown on. -/
def Notice.text : Notice → Text
  | .logged record => record.line
  | .refused refusal => "  Error: " ++ refusal.message
  | .unwritten target objection =>
      "  Error: cannot write " ++ target.text ++ ": " ++ objection.report

/-- How a command ends: its status, its output and its notices in order. -/
structure Outcome where
  status : Nat
  output : Text
  notices : List Notice
  deriving DecidableEq, Repr

/-- The end of a command whose project or settings cannot be loaded. -/
def ofLoadFault : LoadFault → Except Crash Outcome
  | .refused refusal => .ok ⟨1, [], [.refused refusal]⟩
  | .crashed crash => .error crash

/-- The notices of log records, which are shown only on request. -/
def logged (verbose : Bool) (records : List Record) : List Notice :=
  if verbose then records.map .logged else []

/-- The end of a command that could not write a file, after the given notices. -/
def ofFileFault (target : Path) (notices : List Notice) : FileFault → Except Crash Outcome
  | .refused objection => .ok ⟨1, [], notices ++ [.unwritten target objection]⟩
  | .crashed crash => .error crash

/-- The end of a command that shows a text, after the given notices. -/
def printed (encoding : Encoding) (text : Text) (notices : List Notice) :
    Except Crash Outcome :=
  match encoding.output text with
  | .error report => .error (.unencodable report)
  | .ok _ => .ok ⟨0, text, notices⟩

variable {m : Type → Type} [Monad m]

/-- The settings of a request: from its own file, else from the environment's, else standard. -/
def settingsOf
    (host : Host m) (packages : Packages) (environment : Option Text)
    (request : GenerateRequest) : m (Except LoadFault Settings) :=
  match request.settings, environment with
  | some path, _ => host.loadSettings packages path
  | none, some (c :: rest) => host.loadSettings packages (Path.ofText (c :: rest))
  | none, _ => return .ok .standard

/-- A source file written into the folder of a request. -/
def writeSource
    (host : Host m) (verbose : Bool) (output : Path) (filename : String)
    (source : Text) (notices : List Notice) : m (Except Crash Outcome) := do
  let target := output.append (Path.ofText filename.toList)
  match ← host.makeFolders output with
  | .error fault => return ofFileFault target notices fault
  | .ok () =>
      let content := host.encoding.content source
      -- Opening the file empties it, so a source without bytes leaves an empty file behind.
      match ← host.write target (content.toOption.getD []) with
      | .error fault => return ofFileFault target notices fault
      | .ok () =>
          match content with
          | .error report => return .error (.unencodable report)
          | .ok _ =>
              let line : Text := "  Generated " ++ target.text ++ "\n"
              return printed host.encoding line
                (notices ++ logged verbose [.wrote target.text])

/-- A request to generate, carried out. -/
def generate
    (host : Host m) (packages : Packages) (environment : Option Text) (verbose : Bool)
    (request : GenerateRequest) : m (Except Crash Outcome) := do
  match ← host.loadProject packages request.project with
  | .error fault => return ofLoadFault fault
  | .ok loaded =>
      let project :=
        match request.language with
        | some language => loaded.withLanguage language.name
        | none => loaded
      match ← settingsOf host packages environment request with
      | .error fault => return ofLoadFault fault
      | .ok settings =>
          let source := project.source settings
          let notices := logged verbose (project.records settings)
          if request.toStdout then
            return printed host.encoding source notices
          else
            writeSource host verbose request.output project.filename source notices

/-- A command carried out; the environment may name a settings file. -/
def run
    (host : Host m) (packages : Packages) (environment : Option Text)
    (invocation : Invocation) : m (Except Crash Outcome) :=
  match invocation.request with
  | .generate request => generate host packages environment invocation.verbose request
  | .elements language => return printed host.encoding (Palette.listing language) []

/-- A command line read and carried out, unless reading it stops. -/
def execute
    (host : Host m) (packages : Packages) (environment : Option Text)
    (arguments : List Text) : m (Except Stop (Except Crash Outcome)) :=
  match read arguments with
  | .error stop => return .error stop
  | .ok invocation => return .ok (← run host packages environment invocation)

end Blockwright.Command
