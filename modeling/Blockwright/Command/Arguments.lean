import Blockwright.Command.Grammar
import Blockwright.Files.Path
import Blockwright.Language

/-!
# The command line

Two commands: `generate` writes the source file of a project, and `elements`
lists the palette.  A request for log records stands before the command.
-/

namespace Blockwright.Command

/-- What `generate` is asked to do. -/
structure GenerateRequest where
  project : Path
  /-- The language that replaces the project's own. -/
  language : Option Language
  /-- The folder that the file is written to. -/
  output : Path
  /-- Whether the file is printed instead. -/
  toStdout : Bool
  /-- The file that the settings are read from. -/
  settings : Option Path
  deriving DecidableEq, Repr

/-- A command. -/
inductive Request where
  | generate (request : GenerateRequest)
  | elements (language : Language)
  deriving DecidableEq, Repr

/-- A command, and whether log records are shown. -/
structure Invocation where
  verbose : Bool
  request : Request
  deriving DecidableEq, Repr

/-- What the options of the command line are for. -/
inductive OptionKey where
  | help
  | verbose
  | language
  | output
  | stdout
  | settings
  deriving DecidableEq, Repr

/-- The option that asks for help. -/
def helpOption : OptionSpec OptionKey := ⟨["-h", "--help"], false, .help⟩

/-- The option that asks for log records. -/
def verboseOption : OptionSpec OptionKey := ⟨["--verbose", "-v"], false, .verbose⟩

/-- The option that names a language. -/
def languageOption : OptionSpec OptionKey := ⟨["--language"], true, .language⟩

/-- The option that names the folder to write to. -/
def outputOption : OptionSpec OptionKey := ⟨["--output", "-o"], true, .output⟩

/-- The option that asks for the file to be printed. -/
def stdoutOption : OptionSpec OptionKey := ⟨["--stdout"], false, .stdout⟩

/-- The option that names the settings file. -/
def settingsOption : OptionSpec OptionKey := ⟨["--config"], true, .settings⟩

/-- The language that the value of an option names. -/
def chooseLanguage (option : OptionSpec OptionKey) (value : Text) : Except Stop Language :=
  match Language.ofName? (String.ofList value) with
  | some language => .ok language
  | none =>
      .error (.usage (.invalidChoice option.display value
        (Language.all.map (·.name.toList))))

/-- What has been read of the arguments of `generate`. -/
structure GenerateState where
  project : Option Path := none
  language : Option Language := none
  output : Option Path := none
  toStdout : Bool := false
  settings : Option Path := none

/-- What an option of `generate` does; printing and choosing a folder exclude each other. -/
def onGenerateOption
    (option : OptionSpec OptionKey) (value : Text) (state : GenerateState) :
    Except Stop GenerateState :=
  match option.key with
  | .help => .error .help
  | .verbose => .ok state
  | .language => do
      let language ← chooseLanguage option value
      return { state with language := some language }
  | .output =>
      if state.toStdout then
        .error (.usage (.conflict option.display stdoutOption.display))
      else
        .ok { state with output := some (Path.ofText value) }
  | .stdout =>
      if state.output.isSome then
        .error (.usage (.conflict option.display outputOption.display))
      else
        .ok { state with toStdout := true }
  | .settings => .ok { state with settings := some (Path.ofText value) }

/-- The grammar of the arguments of `generate`. -/
def generateGrammar : Grammar OptionKey GenerateState where
  options := [helpOption, languageOption, outputOption, stdoutOption, settingsOption]
  onOption := onGenerateOption
  arity := .one
  onPositional arguments state :=
    .ok { state with project := (arguments.head?).map Path.ofText }

/-- The request that the arguments of `generate` make, and those that nothing takes. -/
def readGenerate (arguments : List Text) : Except Stop (Request × List Text) := do
  let (state, extras) ← generateGrammar.run arguments {}
  match state.project with
  | none => .error (.usage (.missingArguments ["project".toList]))
  | some project =>
      let request : GenerateRequest :=
        { project := project
          language := state.language
          output := state.output.getD Path.here
          toStdout := state.toStdout
          settings := state.settings }
      return (.generate request, extras)

/-- What an option of `elements` does. -/
def onElementsOption
    (option : OptionSpec OptionKey) (value : Text) (language : Language) :
    Except Stop Language :=
  match option.key with
  | .help => .error .help
  | .language => chooseLanguage option value
  | _ => .ok language

/-- The grammar of the arguments of `elements`. -/
def elementsGrammar : Grammar OptionKey Language where
  options := [helpOption, languageOption]
  onOption := onElementsOption
  arity := .none
  onPositional _ language := .ok language

/-- The request that the arguments of `elements` make, and those that nothing takes. -/
def readElements (arguments : List Text) : Except Stop (Request × List Text) := do
  let (language, extras) ← elementsGrammar.run arguments .csharp
  return (.elements language, extras)

/-- The names of the commands. -/
def commandNames : List Text := ["generate".toList, "elements".toList]

/-- What has been read of the whole command line. -/
structure LineState where
  verbose : Bool := false
  request : Option Request := none
  /-- The arguments of the command that nothing takes. -/
  extras : List Text := []

/-- What an option before the command does. -/
def onLineOption
    (option : OptionSpec OptionKey) (_ : Text) (state : LineState) : Except Stop LineState :=
  match option.key with
  | .help => .error .help
  | .verbose => .ok { state with verbose := true }
  | _ => .ok state

/-- What a command and everything after it do. -/
def onCommand (arguments : List Text) (state : LineState) : Except Stop LineState :=
  match arguments with
  | [] => .ok state
  | name :: rest => do
      let (request, extras) ←
        if name = "generate" then readGenerate rest
        else if name = "elements" then readElements rest
        else .error (.usage (.invalidChoice "command" name commandNames))
      return { state with request := some request, extras := extras }

/-- The grammar of the whole command line. -/
def lineGrammar : Grammar OptionKey LineState where
  options := [helpOption, verboseOption]
  onOption := onLineOption
  arity := .rest
  onPositional := onCommand

/-- What a command line asks for. -/
def read (arguments : List Text) : Except Stop Invocation := do
  let (state, extras) ← lineGrammar.run arguments {}
  match state.request with
  | none => .error (.usage (.missingArguments ["command".toList]))
  | some request =>
      match extras ++ state.extras with
      | [] => return ⟨state.verbose, request⟩
      | unrecognized => .error (.usage (.unrecognized unrecognized))

end Blockwright.Command
