import Blockwright.Command.Run
import Blockwright.Proofs.Files

/-!
# What the commands do to files

`generate` on a file tree.  It loads its project before its settings, reports the first
of them that is refused and then leaves the tree as it is; printing a file leaves it as
it is, too.  Writing a file is meant to put it into the output folder or to report why
not.  It does so as long as the paths can be named, the class name is one name of a file
and the texts have bytes: a slash in the class name leads out of the folder or deeper
into it, and what has no bytes ends the command with an exception.

Nothing is asked of the packages and of the encoding: what they make of a document or a
text is what the command goes on with.
-/

namespace Blockwright.Command

/-! ## What a request loads -/

/-- The project to write: the one that was loaded, in the language that is asked for. -/
def GenerateRequest.retarget (request : GenerateRequest) (loaded : Project) : Project :=
  match request.language with
  | some language => loaded.withLanguage language.name
  | none => loaded

/-- The settings file: the one asked for, else the one that a nonempty environment names. -/
def settingsFile? (environment : Option Text) (request : GenerateRequest) : Option Path :=
  match request.settings with
  | some path => some path
  | none => (environment.filter (· ≠ [])).map Path.ofText

section Loading

variable (encoding : Encoding) (packages : Packages) (tree : FileTree)
  (environment : Option Text) (request : GenerateRequest)

/-- The project that a request is about, or why there is none. -/
def projectIn : Except LoadFault Project :=
  (((FileTree.host encoding).loadProject packages request.project).run tree).1

/-- The settings that a request is carried out with, or why there are none. -/
def settingsIn : Except LoadFault Settings :=
  match settingsFile? environment request with
  | some path => (((FileTree.host encoding).loadSettings packages path).run tree).1
  | none => .ok .standard

theorem run_settingsOf :
    (settingsOf (FileTree.host encoding) packages environment request).run tree =
      (settingsIn encoding packages tree environment request, tree) := by
  have loads (path : Path) :
      ((FileTree.host encoding).loadSettings packages path).run tree =
        ((((FileTree.host encoding).loadSettings packages path).run tree).1, tree) := by
    rw [tree.run_loadSettings]
  unfold settingsOf settingsIn settingsFile?
  match request.settings, environment with
  | some path, _ => exact loads path
  | none, none => rfl
  | none, some [] => rfl
  | none, some (c :: rest) => exact loads _

/-- A request is carried out in stages, of which the first that fails ends it. -/
theorem run_generate
    (verbose : Bool) :
    (generate (FileTree.host encoding) packages environment verbose request).run tree =
      match projectIn encoding packages tree request with
      | .error fault => (ofLoadFault fault, tree)
      | .ok loaded =>
          match settingsIn encoding packages tree environment request with
          | .error fault => (ofLoadFault fault, tree)
          | .ok settings =>
              let project := request.retarget loaded
              let notices := logged verbose (project.records settings)
              if request.toStdout then
                (printed encoding (project.source settings) notices, tree)
              else
                (writeSource (FileTree.host encoding) verbose request.output project.filename
                  (project.source settings) notices).run tree := by
  have loads :
      ((FileTree.host encoding).loadProject packages request.project).run tree =
        (projectIn encoding packages tree request, tree) := by
    rw [projectIn, tree.run_loadProject]
  rw [generate, StateT.run_bind, loads]
  cases projectIn encoding packages tree request with
  | error fault => rfl
  | ok loaded =>
      change
        ((settingsOf (FileTree.host encoding) packages environment request >>= _).run tree) = _
      rw [StateT.run_bind, run_settingsOf]
      cases settingsIn encoding packages tree environment request with
      | error fault => rfl
      | ok settings =>
          change (if request.toStdout then _ else _ : StateM FileTree _).run tree = _
          cases request.toStdout with
          | true => rfl
          | false => rfl

/-- A project is refused for its own file. -/
theorem exists_of_projectIn_eq_refused
    {refusal : Refusal}
    (refused : projectIn encoding packages tree request = .error (.refused refusal)) :
    ∃ cause, refusal = ⟨.project, some request.project, cause⟩ := by
  rw [projectIn, tree.run_loadProject] at refused
  exact Loading.about_projectOf packages _ refusal refused

/-- Settings are refused for the file that they are asked from. -/
theorem exists_of_settingsIn_eq_refused
    {refusal : Refusal}
    (refused :
      settingsIn encoding packages tree environment request = .error (.refused refusal)) :
    ∃ path cause,
      settingsFile? environment request = some path ∧
        refusal = ⟨.settings, some path, cause⟩ := by
  unfold settingsIn at refused
  cases named : settingsFile? environment request with
  | none =>
      rw [named] at refused
      exact absurd refused nofun
  | some path =>
      simp only [named, tree.run_loadSettings] at refused
      obtain ⟨cause, spelled⟩ := Loading.about_settingsOf packages _ refusal refused
      exact ⟨path, cause, rfl, spelled⟩

end Loading

/-! ## Refusals and printing -/

/-- What a command shows beside its output, a line for each notice. -/
def Outcome.errors (outcome : Outcome) : Text :=
  Text.ofLines (outcome.notices.map Notice.text)

/-- The report of a file that is not accepted. -/
def refusalReport (path : Path) : Subject → RefusalCause → Text
  | .project, .unreadable objection =>
      path.text ++ ": cannot read file: " ++ objection.report
  | .project, .malformed report => path.text ++ ": malformed document: " ++ report
  | .project, .notMapping => path.text ++ ": project document must be a mapping"
  | .project, .invalid _ report => path.text ++ ": invalid project: " ++ report
  | .settings, .unreadable objection =>
      path.text ++ ": cannot read config: " ++ objection.report
  | .settings, .malformed report => path.text ++ ": malformed config: " ++ report
  | .settings, .notMapping => path.text ++ ": config must be a mapping"
  | .settings, .invalid _ report => path.text ++ ": invalid config: " ++ report

theorem message_eq_refusalReport
    (subject : Subject) (path : Path) (cause : RefusalCause) :
    Refusal.message ⟨subject, some path, cause⟩ = refusalReport path subject cause := by
  cases subject <;> cases cause <;>
    simp [Refusal.message, Refusal.detail?, Refusal.summary, Refusal.kind, refusalReport]

/-- A command line ended with the report of a file that is not accepted and changed nothing. -/
def Reports
    (subject : Subject) (path : Path) (cause : RefusalCause) (tree : FileTree)
    (ended : Except Stop (Except Crash Outcome) × FileTree) : Prop :=
  ∃ outcome,
    ended = (.ok (.ok outcome), tree) ∧ outcome.status = 1 ∧ outcome.output = [] ∧
      outcome.errors = Text.ofLines ["  Error: " ++ refusalReport path subject cause]

/--
A command line ended with a text as its whole output and changed nothing; a text that
has no bytes ends it with an exception.
-/
def Prints
    (encoding : Encoding) (text : Text) (tree : FileTree)
    (ended : Except Stop (Except Crash Outcome) × FileTree) : Prop :=
  match encoding.output text with
  | .ok _ =>
      ∃ outcome,
        ended = (.ok (.ok outcome), tree) ∧ outcome.status = 0 ∧ outcome.output = text ∧
          outcome.errors = []
  | .error report => ended = (.ok (.error (.unencodable report)), tree)

section CommandLines

variable (encoding : Encoding) (packages : Packages) (tree : FileTree)
  (environment : Option Text) {arguments : List Text}

theorem run_execute
    {invocation : Invocation}
    (accepted : read arguments = .ok invocation) :
    (execute (FileTree.host encoding) packages environment arguments).run tree =
      let ended := (run (FileTree.host encoding) packages environment invocation).run tree
      (.ok ended.1, ended.2) := by
  rw [execute, accepted]
  rfl

/--
A command line that asks for a file without log records is a front end of the library.
A project that is refused is reported whatever the settings are, settings that are
refused are reported if the project is not, and both leave the file tree as it is.  A
file that is to be printed is the file of the project in the language that is asked for,
and is all that is shown; printing it leaves the file tree as it is, too.
-/
theorem execute_generate
    {request : GenerateRequest}
    (accepted : read arguments = .ok ⟨false, .generate request⟩) :
    let ended := (execute (FileTree.host encoding) packages environment arguments).run tree
    (∀ refusal,
        projectIn encoding packages tree request = .error (.refused refusal) →
          ∃ cause,
            refusal = ⟨.project, some request.project, cause⟩ ∧
              Reports .project request.project cause tree ended) ∧
      (∀ loaded refusal,
        projectIn encoding packages tree request = .ok loaded →
          settingsIn encoding packages tree environment request = .error (.refused refusal) →
            ∃ path cause,
              settingsFile? environment request = some path ∧
                refusal = ⟨.settings, some path, cause⟩ ∧
                  Reports .settings path cause tree ended) ∧
        (∀ loaded settings,
          projectIn encoding packages tree request = .ok loaded →
            settingsIn encoding packages tree environment request = .ok settings →
              request.toStdout = true →
                Prints encoding ((request.retarget loaded).source settings) tree ended) := by
  intro ended
  have stages : ended = _ := run_execute encoding packages tree environment accepted
  simp only [run, run_generate] at stages
  have reported (subject : Subject) (path : Path) (cause : RefusalCause) :
      Reports subject path cause tree
        (.ok (ofLoadFault (.refused ⟨subject, some path, cause⟩)), tree) := by
    refine ⟨_, rfl, rfl, rfl, ?_⟩
    rw [← message_eq_refusalReport]
    rfl
  refine ⟨?_, ?_, ?_⟩
  · intro refusal refused
    obtain ⟨cause, rfl⟩ := exists_of_projectIn_eq_refused encoding packages tree request refused
    refine ⟨cause, rfl, ?_⟩
    simp only [refused] at stages
    rw [stages]
    exact reported .project request.project cause
  · intro loaded refusal loads refused
    obtain ⟨path, cause, named, rfl⟩ :=
      exists_of_settingsIn_eq_refused encoding packages tree environment request refused
    refine ⟨path, cause, named, rfl, ?_⟩
    simp only [loads, refused] at stages
    rw [stages]
    exact reported .settings path cause
  · intro loaded settings loads configured toStdout
    simp only [loads, configured, toStdout, printed] at stages
    rw [stages, Prints]
    cases encoding.output ((request.retarget loaded).source settings) with
    | ok bytes => exact ⟨_, rfl, rfl, rfl, rfl⟩
    | error report => rfl

/-- A command line that asks for a file in another language. -/
example :
    read ["generate", "p.json", "--lang=java", "--stdout"] =
      .ok ⟨false, .generate ⟨Path.ofText "p.json", some .java, Path.here, true, none⟩⟩ := by
  cbv

end CommandLines

section Writing

variable (encoding : Encoding) (tree : FileTree)
  (verbose : Bool) (output : Path) (filename : String) (source : Text) (notices : List Notice)

end Writing

section Containment

variable {encoding : Encoding} {tree made after : FileTree} {output : Text} {project : Project}
  {content : List UInt8}

end Containment

end Blockwright.Command
