import Blockwright.Loading.Load
import Blockwright.Proofs.Encoding

/-!
# How loading ends

Loading a file is meant to end with a value or with a refusal that names the file,
whatever the machine holds.  It does so just if the path can be named on the machine
and the bytes of the file, where it can be read, are UTF-8.

This is shown for all packages that fail only as they are documented to: what reads and
checks documents then never ends in another way, and the other ends belong to reading
the file alone.
-/

namespace Blockwright

namespace Encoding

/-- The names of a path have bytes and hold no null character; other paths have no files. -/
def Nameable (encoding : Encoding) (path : Path) : Prop :=
  ∀ name ∈ path.names, (∃ bytes, encoding.name name = .ok bytes) ∧ '\x00' ∉ name

theorem crash?_eq_none_iff
    (encoding : Encoding) (path : Path) :
    encoding.crash? path = none ↔ encoding.Nameable path := by
  unfold crash? Nameable
  simp only [Option.or_eq_none_iff, List.findSome?_eq_none_iff, ite_eq_right_iff,
    reduceCtorEq, imp_false, List.any_eq_true, List.contains_iff_mem, not_exists, not_and]
  rw [← forall₂_and]
  apply forall₂_congr
  intro name _
  apply and_congr_left
  intro _
  cases encoding.name name with
  | ok bytes => simp
  | error report => simp

/-- On a file tree an operation on a path that cannot be named changes nothing. -/
theorem run_guarded
    {α : Type} (encoding : Encoding) (path : Path)
    (operation : StateM FileTree (Except Objection α)) (tree : FileTree) :
    (encoding.guarded path operation).run tree =
      match encoding.crash? path with
      | some crash => (.error (.crashed crash), tree)
      | none => ((operation.run tree).1.mapError .refused, (operation.run tree).2) := by
  unfold guarded
  cases encoding.crash? path <;> rfl

end Encoding

/-- What a host hears of an attempt to read a file. -/
def FileTree.attempted
    (encoding : Encoding) (tree : FileTree) (path : Path) : Except FileFault (List UInt8) :=
  match encoding.crash? path with
  | some crash => .error (.crashed crash)
  | none => (tree.read path).mapError .refused

theorem FileTree.run_read
    (encoding : Encoding) (tree : FileTree) (path : Path) :
    ((FileTree.host encoding).read path).run tree = (tree.attempted encoding path, tree) := by
  refine (encoding.run_guarded path _ tree).trans ?_
  unfold attempted
  cases encoding.crash? path <;> rfl

namespace Loading

variable {α β : Type} {subject : Subject} {path : Path}

/-- Loading ended with a value, or with a refusal of the very file that was asked for. -/
inductive Settled (subject : Subject) (path : Path) : Except LoadFault α → Prop where
  | loaded (value : α) : Settled subject path (.ok value)
  | refused (cause : RefusalCause) :
      Settled subject path (.error (.refused ⟨subject, some path, cause⟩))

/-- What was read, if anything was, is UTF-8. -/
def Legible {ε : Type} (read : Except ε (List UInt8)) : Prop :=
  ∀ content, read = .ok content → content.toByteArray.IsValidUTF8

/-- A stage that always ends well changes nothing about how loading ends. -/
theorem settled_bind_iff
    {outcome : Except LoadFault α} {next : α → Except LoadFault β}
    (ends : ∀ value, Settled subject path (next value)) :
    Settled subject path (outcome >>= next) ↔ Settled subject path outcome := by
  cases outcome with
  | ok value => exact ⟨fun _ => .loaded value, fun _ => ends value⟩
  | error fault =>
      constructor
      · rintro ⟨⟩
        exact .refused _
      · rintro ⟨⟩
        exact .refused _

theorem settled_decoded_iff
    (content : List UInt8) :
    Settled subject path (text subject path (.ok content)) ↔
      content.toByteArray.IsValidUTF8 := by
  rw [← Utf8.exists_decode_eq_ok_iff, text]
  cases Utf8.decode content with
  | ok value => exact ⟨fun _ => ⟨value, rfl⟩, fun _ => .loaded _⟩
  | error fault => exact ⟨nofun, nofun⟩

/-- Reading a text ends well just if nothing was wrong with the path and the bytes. -/
theorem settled_text_iff
    (encoding : Encoding) (tree : FileTree) :
    Settled subject path (text subject path (tree.attempted encoding path)) ↔
      encoding.Nameable path ∧ Legible (tree.read path) := by
  rw [← encoding.crash?_eq_none_iff, FileTree.attempted]
  cases encoding.crash? path with
  | some crash => exact ⟨nofun, nofun⟩
  | none =>
      cases tree.read path with
      | error objection => exact ⟨fun _ => ⟨rfl, nofun⟩, fun _ => .refused _⟩
      | ok content =>
          refine (settled_decoded_iff content).trans ?_
          constructor
          · intro valid
            refine ⟨rfl, ?_⟩
            rintro other ⟨⟩
            exact valid
          · intro fine
            exact fine.2 content rfl

/-- Where loading ends with a refusal, it is one of the very file that was asked for. -/
def About (subject : Subject) (path : Path) (outcome : Except LoadFault α) : Prop :=
  ∀ refusal, outcome = .error (.refused refusal) → ∃ cause, refusal = ⟨subject, some path, cause⟩

theorem about_bind
    {outcome : Except LoadFault α} {next : α → Except LoadFault β}
    (first : About subject path outcome)
    (later : ∀ value, About subject path (next value)) :
    About subject path (outcome >>= next) := by
  cases outcome with
  | ok value => exact later value
  | error fault =>
      rintro refusal ⟨⟩
      exact first refusal rfl

section About

variable (packages : Packages) (read : Except FileFault (List UInt8))

theorem about_document
    (format : Format) :
    About subject path (document packages subject format path read) := by
  apply about_bind
  · intro refusal refused
    unfold text at refused
    split at refused
    · exact absurd refused nofun
    · cases refused
      exact ⟨_, rfl⟩
    · split at refused <;> exact absurd refused nofun
  · intro text refusal refused
    split at refused
    · exact absurd refused nofun
    · cases refused
      exact ⟨_, rfl⟩
    · exact absurd refused nofun

theorem about_accept
    (document : Document) (outcome : Schema.Checked α) :
    About subject path (accept packages subject (some path) document outcome) := by
  intro refusal refused
  unfold accept at refused
  split at refused
  · exact absurd refused nofun
  · exact absurd refused nofun
  · cases refused
    exact ⟨_, rfl⟩

theorem about_projectOf : About .project path (projectOf packages path read) := by
  apply about_bind (about_document packages read _)
  intro document
  cases document with
  | mapping entries => exact about_accept packages _ _
  | _ =>
      rintro refusal ⟨⟩
      exact ⟨_, rfl⟩

theorem about_settingsOf : About .settings path (settingsOf packages path read) := by
  apply about_bind (about_document packages read _)
  intro document
  cases document with
  | null => exact nofun
  | mapping entries => exact about_accept packages _ _
  | _ =>
      rintro refusal ⟨⟩
      exact ⟨_, rfl⟩

end About

section Documented

variable {packages : Packages} (documented : packages.Documented)
  (encoding : Encoding) (tree : FileTree)

include documented

theorem settled_document_iff
    (format : Format) :
    Settled subject path
        (document packages subject format path (tree.attempted encoding path)) ↔
      encoding.Nameable path ∧ Legible (tree.read path) := by
  rw [document, settled_bind_iff, settled_text_iff]
  intro text
  cases outcome : packages.read format text with
  | ok document => exact .loaded document
  | error fault =>
      cases fault with
      | malformed report => exact .refused _
      | raised report => exact absurd outcome (documented.read format text report)

theorem settled_accept
    (document : Document) (outcome : Schema.Checked α) :
    Settled subject path (accept packages subject (some path) document outcome) := by
  unfold accept
  rw [documented.check]
  cases outcome with
  | valid value => exact .loaded value
  | invalid first others => exact .refused _

theorem settled_projectOf_iff :
    Settled .project path (projectOf packages path (tree.attempted encoding path)) ↔
      encoding.Nameable path ∧ Legible (tree.read path) := by
  rw [projectOf, settled_bind_iff, settled_document_iff documented]
  intro document
  cases document with
  | mapping entries => exact settled_accept documented _ _
  | _ => exact .refused .notMapping

theorem settled_settingsOf_iff :
    Settled .settings path (settingsOf packages path (tree.attempted encoding path)) ↔
      encoding.Nameable path ∧ Legible (tree.read path) := by
  rw [settingsOf, settled_bind_iff, settled_document_iff documented]
  intro document
  cases document with
  | null => exact .loaded _
  | mapping entries => exact settled_accept documented _ _
  | _ => exact .refused .notMapping

end Documented

end Loading

namespace FileTree

variable (encoding : Encoding) (packages : Packages) (tree : FileTree) (path : Path)

theorem run_loadProject :
    ((FileTree.host encoding).loadProject packages path).run tree =
      (Loading.projectOf packages path (tree.attempted encoding path), tree) := by
  rw [Host.loadProject, StateT.run_bind, run_read]
  rfl

theorem run_loadSettings :
    ((FileTree.host encoding).loadSettings packages path).run tree =
      (Loading.settingsOf packages path (tree.attempted encoding path), tree) := by
  rw [Host.loadSettings, StateT.run_bind, run_read]
  rfl

end FileTree

open Loading in
/--
On every file tree, loading a project and loading settings end with a value or with a
refusal of the file that was asked for just if the path can be named and the bytes that
are read are UTF-8.  Settings that are loaded have levels of at least one space, and
loading changes nothing.
-/
theorem FileTree.loading_settled_iff
    {packages : Packages} (documented : packages.Documented)
    (encoding : Encoding) (tree : FileTree) (path : Path) :
    let fine := encoding.Nameable path ∧ Legible (tree.read path)
    let project := ((FileTree.host encoding).loadProject packages path).run tree
    let settings := ((FileTree.host encoding).loadSettings packages path).run tree
    (Settled .project path project.1 ↔ fine) ∧
      (Settled .settings path settings.1 ↔ fine) ∧
        (∀ loaded, settings.1 = .ok loaded → 1 ≤ loaded.indentWidth) ∧
          project.2 = tree ∧ settings.2 = tree := by
  intro fine project settings
  have projectEnd : project = _ := tree.run_loadProject encoding packages path
  have settingsEnd : settings = _ := tree.run_loadSettings encoding packages path
  rw [projectEnd, settingsEnd]
  refine ⟨settled_projectOf_iff documented encoding tree,
    settled_settingsOf_iff documented encoding tree, ?_, rfl, rfl⟩
  intro loaded _
  exact loaded.one_le_indentWidth

/-- An empty file. -/
def emptyFile : FileTree where
  entries := [(["c.yaml".toList], .file [])]
  working := []

open Loading in
/-- Settings are loaded from the empty file. -/
theorem emptyFile_settled :
    let path : Path := ⟨[], ["c.yaml".toList]⟩
    let settings := ((FileTree.host .utf8).loadSettings .standard path).run emptyFile
    Packages.standard.Documented ∧
      (Encoding.utf8.Nameable path ∧ Legible (emptyFile.read path)) ∧
        Settled .settings path settings.1 ∧
          settings.1 = .ok .standard ∧ 1 ≤ Settings.standard.indentWidth := by
  intro path settings
  have documented : Packages.standard.Documented := Packages.standard_documented
  have content : emptyFile.read path = .ok [] := by decide
  have fine : Encoding.utf8.Nameable path ∧ Legible (emptyFile.read path) := by
    constructor
    · intro name member
      obtain rfl := List.mem_singleton.1 member
      exact ⟨⟨_, rfl⟩, by decide⟩
    · rw [content]
      rintro _ ⟨⟩
      exact ⟨[], rfl⟩
  have loaded : settings.1 = .ok .standard := by
    have ended : settings = _ := emptyFile.run_loadSettings .utf8 .standard path
    have attempted : emptyFile.attempted .utf8 path = .ok [] := by
      rw [FileTree.attempted, (Encoding.utf8.crash?_eq_none_iff path).2 fine.1, content]
      rfl
    rw [ended, attempted, settingsOf, document, text, Utf8.decode, Utf8.decodeFrom]
    rfl
  have law := FileTree.loading_settled_iff documented .utf8 emptyFile path
  exact ⟨documented, fine, law.2.1.2 fine, loaded, law.2.2.1 _ loaded⟩

/-- A file of one byte that no UTF-8 text holds. -/
def undecodableFile : FileTree where
  entries := [(["p.json".toList], .file [0xff])]
  working := []

open Loading in
/-- The byte ends the loading of a project with a fault that is no refusal. -/
theorem undecodableFile_unsettled :
    let path : Path := ⟨[], ["p.json".toList]⟩
    let project := ((FileTree.host .utf8).loadProject .standard path).run undecodableFile
    project.1 = .error (.crashed (.undecodable ⟨.invalidStart, 0, 0xff, 1⟩)) ∧
      ¬ Settled .project path project.1 := by
  intro path project
  have content : undecodableFile.read path = .ok [0xff] := by decide
  have refused : Utf8.decode [0xff] = .error ⟨.invalidStart, 0, 0xff, 1⟩ := by
    rw [Utf8.decode, Utf8.decodeFrom]
    decide
  have attempted : undecodableFile.attempted .utf8 path = .ok [0xff] := by
    rw [FileTree.attempted, content]
    rfl
  have ended : project.1 = .error (.crashed (.undecodable ⟨.invalidStart, 0, 0xff, 1⟩)) := by
    have run : project = _ := undecodableFile.run_loadProject .utf8 .standard path
    rw [run, attempted, projectOf, document, text, refused]
    rfl
  refine ⟨ended, ?_⟩
  rw [ended]
  intro settled
  cases settled

end Blockwright
