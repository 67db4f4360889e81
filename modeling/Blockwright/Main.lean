import Blockwright.Command.Run

/-!
# The program

The command line on the machine that the program runs on.
-/

namespace Blockwright

/-- What the operating system objected to, from the error it gave. -/
def FileCause.ofError : IO.Error → FileCause
  | .noFileOrDirectory .. => .notFound
  | .noSuchThing .. => .notFound
  | .alreadyExists .. => .exists
  | .inappropriateType _ number wording =>
      if number = 21 then .isFolder
      else if number = 20 then .notFolder
      else .other number.toNat wording
  | .permissionDenied _ number wording => .other number.toNat wording
  | .invalidArgument _ number wording => .other number.toNat wording
  | .otherError number wording => .other number.toNat wording
  | error => .other 5 (toString error)

/-- An operation on a path, with the objection that it may meet. -/
def attempt {α : Type} (path : Path) (operation : String → IO α) :
    IO (Except FileFault α) :=
  Encoding.utf8.guarded path do
    try
      return .ok (← operation (String.ofList path.text))
    catch error =>
      return .error ⟨.ofError error, path⟩

/-- The machine that the program runs on. -/
def machine : Host IO where
  encoding := .utf8
  read path := attempt path fun name => do
    return (← IO.FS.readBinFile name).toList
  makeFolders path := attempt path fun name => IO.FS.createDirAll name
  write path content := attempt path fun name =>
    IO.FS.writeBinFile name (ByteArray.mk content.toArray)

/-- The forms of the command line. -/
def usage : String :=
  "usage: blockwright [-h] [--verbose] generate|elements ..."

/-- The outcome of a command shown to the user; the result is the status of the program. -/
def present (outcome : Except Crash Command.Outcome) : IO UInt32 := do
  match outcome with
  | .error crash =>
      IO.eprintln (String.ofList crash.message)
      return 1
  | .ok outcome =>
      for notice in outcome.notices do
        IO.eprintln (String.ofList notice.text)
      IO.print (String.ofList outcome.output)
      return outcome.status.toUInt32

end Blockwright

open Blockwright in
/-- The program: its arguments are read and the command they ask for is carried out. -/
def main (arguments : List String) : IO UInt32 := do
  let environment ← IO.getEnv "BLOCKCODE_CONFIG"
  let outcome ← Command.execute machine .standard (environment.map String.toList)
    (arguments.map String.toList)
  match outcome with
  | .error .help =>
      IO.println usage
      return 0
  | .error (.usage fault) =>
      IO.eprintln usage
      IO.eprintln ("blockwright: error: " ++ String.ofList fault.message)
      return 2
  | .ok outcome => present outcome
