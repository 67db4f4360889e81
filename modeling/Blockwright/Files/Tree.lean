import Blockwright.Files.Fault

/-!
# File trees

The files and folders of a machine as a value.  The library's commands are
written against `Host`, which says what they ask of a machine; a file tree is
one host, and the machine that a program runs on is another.  On a file tree
the effect of a command is a function from trees to trees.

A machine has an `Encoding`, and not every text need have bytes in it.
-/

namespace Blockwright

/-- The bytes that a machine gives to texts, or the report of why a text has none. -/
structure Encoding where
  /-- The bytes of a name in a path. -/
  name : Text → Except Text (List UInt8)
  /-- The bytes of a text that is written to a file. -/
  content : Text → Except Text (List UInt8)
  /-- The bytes of a text that is shown as output. -/
  output : Text → Except Text (List UInt8)

namespace Encoding

/-- Every text in UTF-8. -/
def utf8 : Encoding :=
  ⟨.ok ∘ Utf8.encode, .ok ∘ Utf8.encode, .ok ∘ Utf8.encode⟩

/-- The exception that a path ends every operation on it with, if it does. -/
def crash? (encoding : Encoding) (path : Path) : Option Crash :=
  let unencodable := path.names.findSome? fun name =>
    match encoding.name name with
    | .error report => some (Crash.unencodable report)
    | .ok _ => none
  unencodable.or (if path.names.any (·.contains '\x00') then some .nullCharacter else none)

/-- An operation on a path of which the operating system hears only if the path can be named. -/
def guarded {m : Type → Type} [Monad m] {α : Type}
    (encoding : Encoding) (path : Path) (operation : m (Except Objection α)) :
    m (Except FileFault α) := do
  match encoding.crash? path with
  | some crash => return .error (.crashed crash)
  | none => return (← operation).mapError .refused

end Encoding

/-- What commands ask of the machine they run on. -/
structure Host (m : Type → Type) where
  encoding : Encoding
  /-- The bytes of a file. -/
  read : Path → m (Except FileFault (List UInt8))
  /-- A folder is made, with the folders above it; one that is there already is left alone. -/
  makeFolders : Path → m (Except FileFault Unit)
  /-- A file is written, in the place of a file that is there already. -/
  write : Path → List UInt8 → m (Except FileFault Unit)

/-- What stands at a location of a file tree. -/
inductive FileEntry where
  | folder
  | file (content : List UInt8)
  deriving DecidableEq, Repr

/-- The names that lead from the root of a file tree to a location. -/
abbrev Location := List Text

/-- The files and folders of a machine, and the folder that relative paths start from. -/
structure FileTree where
  entries : List (Location × FileEntry)
  working : Location
  deriving DecidableEq, Repr

namespace FileTree

/-- What stands at a location; the root is always a folder. -/
def find? (tree : FileTree) (location : Location) : Option FileEntry :=
  if location.isEmpty then some .folder else tree.entries.lookup location

/-- Entries with an entry put at a location, in the place of what was there. -/
def putEntry (location : Location) (entry : FileEntry) :
    List (Location × FileEntry) → List (Location × FileEntry)
  | [] => [(location, entry)]
  | (place, old) :: rest =>
      if location = place then
        (place, entry) :: rest
      else
        (place, old) :: putEntry location entry rest

/-- A tree with an entry put at a location. -/
def put (location : Location) (entry : FileEntry) (tree : FileTree) : FileTree :=
  { tree with entries := putEntry location entry tree.entries }

/-- The most bytes that a name may take. -/
def longestName : Nat := 255

/-- The location that names lead to from a location; every name must be looked up in a folder. -/
def follow (tree : FileTree) : Location → List Text → Except FileCause Location
  | location, [] => .ok location
  | location, name :: names =>
      match tree.find? location with
      | none => .error .notFound
      | some (.file _) => .error .notFolder
      | some .folder =>
          if name = ['.', '.'] then
            follow tree location.dropLast names
          else if longestName < (Utf8.encode name).length then
            .error .nameTooLong
          else
            follow tree (location ++ [name]) names

/-- The location that a path leads to. -/
def locate (tree : FileTree) (path : Path) : Except Objection Location :=
  (tree.follow (if path.root.isEmpty then tree.working else []) path.names).mapError (⟨·, path⟩)

/-- The bytes of the file that a path leads to. -/
def read (tree : FileTree) (path : Path) : Except Objection (List UInt8) := do
  let location ← tree.locate path
  match tree.find? location with
  | none => .error ⟨.notFound, path⟩
  | some .folder => .error ⟨.isFolder, path⟩
  | some (.file content) => .ok content

/-- Whether a path leads to a folder. -/
def isFolder (tree : FileTree) (path : Path) : Bool :=
  match tree.locate path with
  | .ok location => tree.find? location = some .folder
  | .error _ => false

/-- One folder made; nothing may stand where it is made. -/
def makeFolder (tree : FileTree) (path : Path) : Except Objection FileTree := do
  let location ← tree.locate path
  match tree.find? location with
  | some _ => .error ⟨.exists, path⟩
  | none => .ok (tree.put location .folder)

/-- A folder made with the folders above it, and the tree that a failure leaves behind. -/
def makeFolders : Nat → Path → FileTree → Except Objection Unit × FileTree
  | 0, path, tree => (.error ⟨.notFound, path⟩, tree)
  | fuel + 1, path, tree =>
      let settle (tree : FileTree) (objection : Objection) : Except Objection Unit × FileTree :=
        if tree.isFolder path then (.ok (), tree) else (.error objection, tree)
      match tree.makeFolder path with
      | .ok made => (.ok (), made)
      | .error objection =>
          if objection.cause = .notFound then
            if path.parent = path then
              (.error objection, tree)
            else
              match makeFolders fuel path.parent tree with
              | (.error objection, after) => (.error objection, after)
              | (.ok (), after) =>
                  match after.makeFolder path with
                  | .ok made => (.ok (), made)
                  | .error objection => settle after objection
          else
            settle tree objection

/-- A file written; the folder above it must be there, and no folder in its place. -/
def write (tree : FileTree) (path : Path) (content : List UInt8) :
    Except Objection FileTree := do
  let location ← tree.locate path
  match tree.find? location with
  | some .folder => .error ⟨.isFolder, path⟩
  | _ => .ok (tree.put location (.file content))

/-- A file tree as the machine that commands run on. -/
def host (encoding : Encoding) : Host (StateM FileTree) where
  encoding := encoding
  read path := encoding.guarded path do
    return (← get).read path
  makeFolders path := encoding.guarded path do
    let (outcome, after) := makeFolders (path.names.length + 1) path (← get)
    set after
    return outcome
  write path content := encoding.guarded path do
    match (← get).write path content with
    | .error objection => return .error objection
    | .ok after =>
        set after
        return .ok ()

end FileTree

end Blockwright
