import Blockwright.Files.Path
import Blockwright.Text.Inspected
import Blockwright.Text.Utf8

/-!
# File faults

Why a file or a folder cannot be read, made or written.  The operating system
numbers its causes.  Other faults never reach it: a path that names no file, and a
text that has no bytes.  They end the program with an exception.
-/

namespace Blockwright

/-- What the operating system objects to. -/
inductive FileCause where
  | notFound
  | exists
  | notFolder
  | isFolder
  | nameTooLong
  | other (number : Nat) (wording : String)
  deriving DecidableEq, Repr

/-- The number of a cause. -/
def FileCause.number : FileCause → Nat
  | .notFound => 2
  | .exists => 17
  | .notFolder => 20
  | .isFolder => 21
  | .nameTooLong => 36
  | .other number _ => number

/-- The wording of a cause. -/
def FileCause.wording : FileCause → String
  | .notFound => "No such file or directory"
  | .exists => "File exists"
  | .notFolder => "Not a directory"
  | .isFolder => "Is a directory"
  | .nameTooLong => "File name too long"
  | .other _ wording => wording

/-- An objection of the operating system to an operation on a path. -/
structure Objection where
  cause : FileCause
  path : Path
  deriving DecidableEq, Repr

/-- The report of an objection. -/
def Objection.report (objection : Objection) : Text :=
  "[Errno " ++ toString objection.cause.number ++ "] " ++ objection.cause.wording ++ ": " ++
    Text.inspect objection.path.text

/-- An exception that nothing in the program handles. -/
inductive Crash where
  /-- A path holds a null character. -/
  | nullCharacter
  /-- A text has no bytes, by the report of what encodes it. -/
  | unencodable (report : Text)
  /-- Bytes are no text. -/
  | undecodable (fault : Utf8.Fault)
  /-- A package raised an exception of its own. -/
  | raised (report : Text)
  deriving DecidableEq, Repr

/-- The report of a crash. -/
def Crash.message : Crash → Text
  | .nullCharacter => "embedded null byte"
  | .unencodable report => report
  | .undecodable fault => fault.message
  | .raised report => report

/-- Why an operation on a path failed. -/
inductive FileFault where
  /-- The operating system objects to it. -/
  | refused (objection : Objection)
  /-- It ends with an exception. -/
  | crashed (crash : Crash)
  deriving DecidableEq, Repr

end Blockwright
