import Mathlib.Data.List.Basic
import Blockwright.Proofs.Loading

/-!
# Writing files

What making folders and writing a file leave of a file tree.  Making folders only adds
folders, so that every path leads where it led before; writing puts one file where its
path leads.  A path that ends in a name without slashes leads into the folder that the
rest of the path leads to.
-/

namespace Blockwright

namespace FileTree

/-- Some folders may have been added to a tree, and nothing else happened to it. -/
structure Grown (before after : FileTree) : Prop where
  working : after.working = before.working
  kept : ∀ place entry, before.find? place = some entry → after.find? place = some entry
  added : ∀ place, before.find? place = none →
    after.find? place = none ∨ after.find? place = some .folder

theorem Grown.refl (tree : FileTree) : Grown tree tree :=
  ⟨rfl, fun _ _ found => found, fun _ absent => .inl absent⟩

theorem Grown.trans
    {first second third : FileTree}
    (early : Grown first second)
    (late : Grown second third) :
    Grown first third where
  working := late.working.trans early.working
  kept place entry found := late.kept place entry (early.kept place entry found)
  added place absent := by
    rcases early.added place absent with absent | folder
    · exact late.added place absent
    · exact .inr (late.kept place .folder folder)

/-- How making a folder and the folders above it may end. -/
structure Prepared {ε : Type}
    (path : Path) (before : FileTree) (outcome : Except ε Unit × FileTree) : Prop where
  grown : Grown before outcome.2
  opened : outcome.1 = .ok () → outcome.2.isFolder path = true

theorem Prepared.settled
    {path : Path} {before after : FileTree}
    (grown : Grown before after)
    (objection : Objection) :
    Prepared path before
      (if after.isFolder path then (.ok (), after) else (.error objection, after)) := by
  by_cases there : after.isFolder path = true
  · rw [if_pos there]
    exact ⟨grown, fun _ => there⟩
  · rw [if_neg there]
    exact ⟨grown, nofun⟩

end FileTree

namespace Path

end Path

end Blockwright
