import Blockwright.Text.Letters

/-!
# File paths

Paths in normal form: an optional root and the names between slashes, without
the empty ones and the single dots.  Two slashes at the front are a root of
their own; any other number of them is the plain root.
-/

namespace Blockwright

/-- A file path in normal form. -/
structure Path where
  /-- The slashes of an absolute path; a relative path has none. -/
  root : Text
  names : List Text
  deriving DecidableEq, Repr

namespace Path

/-- The root at the front of a text. -/
def rootOf (text : Text) : Text :=
  match (text.takeWhile (· = '/')).length with
  | 0 => []
  | 2 => ['/', '/']
  | _ => ['/']

/-- The path that a text spells. -/
def ofText (text : Text) : Path :=
  { root := rootOf text
    names := (List.splitOn '/' text).filter fun name => !name.isEmpty && name != ['.'] }

/-- The path of the working folder. -/
def here : Path := ⟨[], []⟩

/-- The text of a path; the working folder is a dot. -/
def text (path : Path) : Text :=
  if path.root.isEmpty && path.names.isEmpty then
    ['.']
  else
    path.root ++ List.intercalate ['/'] path.names

/-- A path seen from a folder; an absolute path stays what it is. -/
def append (folder path : Path) : Path :=
  if path.root.isEmpty then
    ⟨folder.root, folder.names ++ path.names⟩
  else
    path

/-- The folder that holds what a path names; the working folder and a root hold themselves. -/
def parent (path : Path) : Path :=
  ⟨path.root, path.names.dropLast⟩

/-- The last name of a path. -/
def name (path : Path) : Text :=
  path.names.getLast?.getD []

/-- The last dot of a name and what follows it, unless the dot is its first or last character. -/
def suffix (path : Path) : Text :=
  let after := (path.name.reverse.takeWhile (· != '.')).reverse
  let before := path.name.length - after.length
  if !after.isEmpty && 1 < before then '.' :: after else []

end Path

end Blockwright
