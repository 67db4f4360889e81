import Blockwright.Text.Inspected

/-!
# Log records

What the library reports while it works.  A record names its cause; its level,
the part of the library it comes from and its wording follow from that.
-/

namespace Blockwright

/-- How much a record matters. -/
inductive Level where
  | debug
  | info
  deriving DecidableEq, Repr

/-- The name of a level. -/
def Level.name : Level → String
  | .debug => "DEBUG"
  | .info => "INFO"

/-- Something that the library reports. -/
inductive Record where
  /-- A project names a language that is not a target, and the given one is written. -/
  | unknownLanguage (language target : Text)
  /-- A file is about to be written in a language. -/
  | generating (target className : Text) (methods : Nat)
  /-- An element's type is outside the vocabulary. -/
  | noRenderer (type : Text)
  /-- Utilities of the given names are defined for the class. -/
  | hoisting (utilities : List Text)
  /-- A file was written. -/
  | wrote (target : Text)
  deriving DecidableEq, Repr

namespace Record

/-- The level of a record. -/
def level : Record → Level
  | .wrote _ => .info
  | _ => .debug

/-- The part of the library that a record comes from. -/
def channel : Record → String
  | .unknownLanguage .. => "blockcode.generator"
  | .generating .. => "blockcode.generator"
  | .noRenderer _ => "blockcode.codegen.base"
  | .hoisting _ => "blockcode.codegen.base"
  | .wrote _ => "blockcode.cli"

/-- The wording of a record. -/
def message : Record → Text
  | .unknownLanguage language target =>
      "Unknown language " ++ Text.inspect language ++ ", generating " ++ target
  | .generating target className methods =>
      "Generating " ++ target ++ " for class " ++ className ++ " (" ++
        toString methods ++ " methods)"
  | .noRenderer type =>
      "No renderer for element type " ++ Text.inspect type ++ ", writing a comment"
  | .hoisting utilities => "Hoisting utilities: " ++ List.intercalate ", " utilities
  | .wrote target => "Wrote " ++ target

/-- A record on one line, as it is shown to the user. -/
def line (record : Record) : Text :=
  record.level.name ++ " " ++ record.channel ++ ": " ++ record.message

end Record

end Blockwright
