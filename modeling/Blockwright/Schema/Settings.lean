import Blockwright.Schema.Scalar
import Blockwright.Settings

/-!
# Checking settings

How a document becomes settings.  Unlike a project, settings may hold no key
that is not known; such keys are listed after the violations of the known ones.
-/

namespace Blockwright.Schema

/-- Settings as a check builds them. -/
structure SettingsRecord where
  indentWidth : Int
  inlineUtilities : Bool
  deriving DecidableEq, Repr

/-- The width of an indentation level: an integer that is at least one. -/
def indentWidth (document : Document) : Checked Int :=
  match integer document with
  | .valid n => if 1 ≤ n then .valid n else complain .tooSmall
  | .invalid first others => .invalid first others

/-- The keys of settings. -/
def settingsKeys : List String := ["indent_width", "java_inline_utilities"]

/-- The violation of a key, if it may not be there. -/
def keyViolation? (key : Document) : Option Violation :=
  match key with
  | .text name =>
      if settingsKeys.contains name then none else some ⟨[.key name], .unknownKey⟩
  | other => some ⟨[.key (keyText other)], .keyNotText⟩

/-- The outcome of checking that a mapping holds known keys only. -/
def knownKeys (entries : List (Document × Document)) : Checked Unit :=
  match entries.filterMap fun (key, _) => keyViolation? key with
  | [] => .valid ()
  | first :: others => .invalid first others

/-- Settings. -/
def settings : Document → Checked SettingsRecord
  | .mapping entries =>
      let width := optional ["indent_width"] 4 indentWidth entries
      let inlineUtilities := optional ["java_inline_utilities"] false bool entries
      let built := (width.map SettingsRecord.mk).apply inlineUtilities
      (built.map fun record _ => record).apply (knownKeys entries)
  | _ => complain (.notModel .settings)

theorem one_le_of_indentWidth_eq_valid
    {document : Document} {width : Int}
    (valid : indentWidth document = .valid width) :
    1 ≤ width := by
  unfold indentWidth at valid
  split at valid
  · split at valid
    · next fits =>
        obtain rfl := Checked.valid.inj valid
        exact fits
    · exact absurd valid nofun
  · exact absurd valid nofun

/-- Settings that pass the check have levels of at least one space. -/
theorem one_le_of_settings_eq_valid
    {document : Document} {record : SettingsRecord}
    (valid : settings document = .valid record) :
    1 ≤ record.indentWidth := by
  cases document with
  | mapping entries =>
      simp only [settings, Checked.apply_eq_valid_iff, Checked.map_eq_valid_iff] at valid
      obtain ⟨_, ⟨_, ⟨_, ⟨width, found, rfl⟩, _, -, rfl⟩, rfl⟩, _, -, rfl⟩ := valid
      unfold optional field at found
      split at found
      · exact one_le_of_indentWidth_eq_valid ((Checked.below_eq_valid_iff _ _ _).1 found)
      · obtain rfl := Checked.valid.inj found
        exact (by decide : (1 : Int) ≤ 4)
  | _ => simp [settings, complain] at valid

end Blockwright.Schema
