import Blockwright.Proofs.Schema.Fields

/-!
# How records are read

A lawful validator reads each field of a record from what stands under the spellings of
its key, and a record field by field; so it cannot tell apart two lists of entries that
the fields cannot tell apart.  `Kind.check_mapping_congr` says this of every kind of
records, and allows that keys are spelled anew on the way: then the places of violations
name them by their new spelling, and nothing else changes.

The keys of a mapping are distinct, so that neither the order of the entries nor an
entry under another key matters for what stands under a key.
-/

namespace Blockwright

/-! ## Keys of mappings -/

namespace Document

/-- No text stands twice as a key. -/
def DistinctKeys (entries : List (Document × Document)) : Prop :=
  entries.Pairwise fun first second =>
    ∀ name : String, first.1 = .text name → second.1 ≠ .text name

theorem isText_eq_false_iff
    (key : Document) (name : String) :
    key.isText name = false ↔ key ≠ .text name := by
  cases key <;> simp [isText]

theorem exists_of_mem_put
    {key value : Document} {entries : List (Document × Document)}
    {entry : Document × Document}
    (member : entry ∈ put key value entries) :
    entry.1 = key ∨ ∃ other ∈ entries, other.1 = entry.1 := by
  induction entries with
  | nil =>
      obtain rfl := List.mem_singleton.1 member
      exact Or.inl rfl
  | cons first rest ih =>
      rw [put] at member
      split at member
      · rcases List.mem_cons.1 member with rfl | later
        · exact Or.inr ⟨first, List.mem_cons_self, rfl⟩
        · exact Or.inr ⟨entry, List.mem_cons_of_mem _ later, rfl⟩
      · rcases List.mem_cons.1 member with rfl | later
        · exact Or.inr ⟨first, List.mem_cons_self, rfl⟩
        · rcases ih later with same | ⟨other, held, same⟩
          · exact Or.inl same
          · exact Or.inr ⟨other, List.mem_cons_of_mem _ held, same⟩

/-- Putting an entry under a key keeps the keys of a mapping distinct. -/
theorem DistinctKeys.put
    {entries : List (Document × Document)}
    (distinct : DistinctKeys entries)
    (key value : Document) :
    DistinctKeys (Document.put key value entries) := by
  induction entries with
  | nil => exact List.pairwise_singleton _ _
  | cons first rest ih =>
      obtain ⟨present, old⟩ := first
      obtain ⟨apart, restDistinct⟩ := List.pairwise_cons.1 distinct
      rw [Document.put]
      split
      · exact List.pairwise_cons.2 ⟨apart, restDistinct⟩
      · rename_i different
        refine List.pairwise_cons.2 ⟨?_, ih restDistinct⟩
        rintro ⟨other, held⟩ member name rfl textual
        rcases exists_of_mem_put member with own | ⟨entry, before, same⟩
        · obtain rfl : Document.text name = key := textual.symm.trans own
          exact different (decide_eq_true rfl)
        · exact apart entry before name rfl (same.trans textual)

/-- The mapping of a list of entries has distinct keys. -/
theorem exists_ofEntries_eq_mapping
    (entries : List (Document × Document)) :
    ∃ built, ofEntries entries = .mapping built ∧ DistinctKeys built := by
  suffices kept :
      ∀ built, DistinctKeys built →
        DistinctKeys (entries.foldl (fun built entry => put entry.1 entry.2 built) built) from
    ⟨_, rfl, kept [] List.Pairwise.nil⟩
  induction entries with
  | nil => exact fun built distinct => distinct
  | cons entry rest ih => exact fun built distinct => ih _ (distinct.put entry.1 entry.2)

/-- In a mapping with distinct keys every entry under a text is the value under it. -/
theorem DistinctKeys.valueOf?_eq_some_iff
    {entries : List (Document × Document)}
    (distinct : DistinctKeys entries)
    (name : String) (value : Document) :
    valueOf? name entries = some value ↔ (.text name, value) ∈ entries := by
  induction entries with
  | nil => simp [valueOf?]
  | cons entry rest ih =>
      obtain ⟨key, held⟩ := entry
      obtain ⟨apart, restDistinct⟩ := List.pairwise_cons.1 distinct
      by_cases own : key = .text name
      · have elsewhere : (.text name, value) ∉ rest :=
          fun later => apart _ later name own rfl
        simp [valueOf?, own, isText, elsewhere, eq_comm]
      · have other : key.isText name = false := (isText_eq_false_iff key name).2 own
        simp [valueOf?, other, ih restDistinct, Ne.symm own]

theorem DistinctKeys.perm
    {entries reordered : List (Document × Document)}
    (distinct : DistinctKeys entries)
    (same : entries.Perm reordered) :
    DistinctKeys reordered := by
  refine (same.pairwise_iff ?_).1 distinct
  intro first second apart name own other
  exact apart name other own

/-- The order of the entries does not matter for the value under a text. -/
theorem DistinctKeys.valueOf?_perm
    {entries reordered : List (Document × Document)}
    (distinct : DistinctKeys entries)
    (same : entries.Perm reordered)
    (name : String) :
    valueOf? name reordered = valueOf? name entries := by
  ext value
  rw [distinct.valueOf?_eq_some_iff, (distinct.perm same).valueOf?_eq_some_iff, same.mem_iff]

/-- An entry of a mapping with distinct keys may as well stand first. -/
theorem DistinctKeys.valueOf?_middle
    {key value : Document} {before after : List (Document × Document)}
    (distinct : DistinctKeys (before ++ (key, value) :: after))
    (name : String) :
    valueOf? name (before ++ (key, value) :: after) =
      if key.isText name then some value else valueOf? name (before ++ after) :=
  (distinct.valueOf?_perm List.perm_middle name).symm

theorem DistinctKeys.replace
    {key value : Document} {before after : List (Document × Document)}
    (distinct : DistinctKeys (before ++ (key, value) :: after))
    (other : Document) :
    DistinctKeys (before ++ (key, other) :: after) := by
  obtain ⟨apart, around⟩ := List.pairwise_cons.1 (distinct.perm List.perm_middle)
  have headed : DistinctKeys ((key, other) :: (before ++ after)) :=
    List.pairwise_cons.2 ⟨apart, around⟩
  exact headed.perm List.perm_middle.symm

/-- A key that is not there may take the place of another. -/
theorem DistinctKeys.rename
    {old new : String} {value : Document} {before after : List (Document × Document)}
    (distinct : DistinctKeys (before ++ (.text old, value) :: after))
    (free : valueOf? new (before ++ (.text old, value) :: after) = none) :
    DistinctKeys (before ++ (.text new, value) :: after) := by
  have around := (List.pairwise_cons.1 (distinct.perm List.perm_middle)).2
  have headed : DistinctKeys ((.text new, value) :: (before ++ after)) := by
    refine List.pairwise_cons.2 ⟨?_, around⟩
    rintro ⟨key, held⟩ member name own rfl
    obtain rfl : new = name := by simpa using own
    have inside : (.text new, held) ∈ before ++ (.text old, value) :: after := by
      rcases List.mem_append.1 member with earlier | later
      · exact List.mem_append_left _ earlier
      · exact List.mem_append_right _ (List.mem_cons_of_mem _ later)
    rw [(distinct.valueOf?_eq_some_iff new held).2 inside] at free
    exact Option.some_ne_none held free
  exact headed.perm List.perm_middle.symm

/-- Without its entry a mapping with distinct keys has nothing under a text. -/
theorem DistinctKeys.valueOf?_without
    {name : String} {value : Document} {before after : List (Document × Document)}
    (distinct : DistinctKeys (before ++ (.text name, value) :: after)) :
    valueOf? name (before ++ after) = none := by
  obtain ⟨apart, restDistinct⟩ := List.pairwise_cons.1 (distinct.perm List.perm_middle)
  rw [Option.eq_none_iff_forall_ne_some]
  intro other found
  exact apart _ ((DistinctKeys.valueOf?_eq_some_iff restDistinct name other).1 found) name rfl rfl

end Document

namespace Schema

open Document

/-! ## Renamed keys -/

/-- A change of spelling: the steps to a record, and the old and the new spelling of its key. -/
structure Respelling where
  place : List Step
  old : String
  new : String
  deriving DecidableEq, Repr

/-- Steps whose first one, at the end of the steps to a record, is spelled anew. -/
def respell (old new : String) : List Step → List Step → List Step
  | [], .key name :: rest => .key (if name = old.toList then new.toList else name) :: rest
  | step :: place, first :: rest =>
      first :: if first = step then respell old new place rest else rest
  | _, path => path

namespace Respelling

/-- A change of spelling inside a part, seen from above the steps that lead to the part. -/
def beneath (steps : List Step) (respelling : Respelling) : Respelling :=
  { respelling with place := steps ++ respelling.place }

/-- A violation after a change of spelling. -/
def apply (respelling : Respelling) (violation : Violation) : Violation :=
  { violation with
    path := respell respelling.old respelling.new respelling.place violation.path }

theorem apply_below
    (respelling : Respelling) (step : Step) (violation : Violation) :
    (respelling.beneath [step]).apply (violation.below step) =
      (respelling.apply violation).below step := by
  simp [apply, beneath, Violation.below, respell]

theorem apply_below_of_ne
    {first step : Step}
    (elsewhere : first ≠ step)
    (respelling : Respelling) (violation : Violation) :
    (respelling.beneath [step]).apply (violation.below first) = violation.below first := by
  simp [apply, beneath, Violation.below, respell, elsewhere]

end Respelling

/-- A violation after changes of spelling, one after the other. -/
def Violation.respelled (changes : List Respelling) (violation : Violation) : Violation :=
  changes.foldl (fun violation respelling => respelling.apply violation) violation

namespace Checked

variable {α β : Type}

/-- The outcome of a check after changes of spelling. -/
def respelled (changes : List Respelling) : Checked α → Checked α
  | .valid value => .valid value
  | .invalid first others =>
      .invalid (first.respelled changes) (others.map (Violation.respelled changes))

@[simp]
theorem respelled_map
    (changes : List Respelling) (f : α → β) (outcome : Checked α) :
    (outcome.map f).respelled changes = (outcome.respelled changes).map f := by
  cases outcome <;> rfl

@[simp]
theorem respelled_apply
    (changes : List Respelling) (function : Checked (α → β)) (argument : Checked α) :
    (function.apply argument).respelled changes =
      (function.respelled changes).apply (argument.respelled changes) := by
  cases function <;> cases argument <;> simp [apply, respelled]

@[simp]
theorem respelled_nil
    (outcome : Checked α) :
    outcome.respelled [] = outcome := by
  have same : Violation.respelled [] = id := rfl
  cases outcome <;> simp [respelled, same]

theorem respelled_append
    (first second : List Respelling) (outcome : Checked α) :
    outcome.respelled (first ++ second) = (outcome.respelled first).respelled second := by
  have both (violation : Violation) :
      violation.respelled (first ++ second) = (violation.respelled first).respelled second :=
    List.foldl_append
  cases outcome <;> simp [respelled, both, Function.comp_def]

theorem respelled_below_eq
    {changes inner : List Respelling} {step after : Step}
    (moved :
      ∀ violation : Violation,
        (violation.below step).respelled changes = (violation.respelled inner).below after)
    (outcome : Checked α) :
    (outcome.below step).respelled changes = (outcome.respelled inner).below after := by
  cases outcome <;> simp [below, respelled, moved, Function.comp_def]

/-- Changes of spelling below a step act on what is found below it. -/
theorem respelled_below
    (changes : List Respelling) (step : Step) (outcome : Checked α) :
    (outcome.below step).respelled (changes.map (Respelling.beneath [step])) =
      (outcome.respelled changes).below step := by
  apply respelled_below_eq
  intro violation
  induction changes generalizing violation with
  | nil => rfl
  | cons respelling others ih =>
      rw [List.map_cons, Violation.respelled, List.foldl_cons, respelling.apply_below]
      exact ih (respelling.apply violation)

/-- Changes of spelling below another step do nothing to what is found below a step. -/
theorem respelled_below_of_ne
    {first step : Step}
    (elsewhere : first ≠ step)
    (changes : List Respelling) (outcome : Checked α) :
    (outcome.below first).respelled (changes.map (Respelling.beneath [step])) =
      outcome.below first := by
  have kept (violation : Violation) :
      (violation.below first).respelled (changes.map (Respelling.beneath [step])) =
        (violation.respelled []).below first := by
    induction changes with
    | nil => rfl
    | cons respelling others ih =>
        rw [List.map_cons, Violation.respelled, List.foldl_cons,
          respelling.apply_below_of_ne elsewhere]
        exact ih
  rw [respelled_below_eq kept, respelled_nil]

/-- A key of the record itself is named by its new spelling in what is found below it. -/
theorem respelled_below_key
    (old new name : String) (outcome : Checked α) :
    (outcome.below (.key name)).respelled [⟨[], old, new⟩] =
      outcome.below (.key (if name = old then new else name)) := by
  have renamed (violation : Violation) :
      (violation.below (.key name)).respelled [⟨[], old, new⟩] =
        (violation.respelled []).below (.key (if name = old then new else name)) := by
    by_cases same : name = old
    · simp [Violation.respelled, Respelling.apply, Violation.below, respell, same]
    · have different : name.toList ≠ old.toList := fun equal => same (String.toList_inj.1 equal)
      simp [Violation.respelled, Respelling.apply, Violation.below, respell, same, different]
  rw [respelled_below_eq renamed, respelled_nil]

end Checked

/-! ## The values of fields -/

theorem present?_congr
    {names : List String} {entries other : List (Document × Document)}
    (same : ∀ name ∈ names, valueOf? name other = valueOf? name entries) :
    present? names other = present? names entries := by
  induction names with
  | nil => rfl
  | cons name others ih =>
      obtain ⟨first, later⟩ := List.forall_mem_cons.1 same
      rw [present?, present?, List.findSome?_cons, List.findSome?_cons, first]
      split
      · rfl
      · exact ih later

namespace Field

variable (field : Field) {entries other : List (Document × Document)}

theorem foreign
    {own : String}
    (apart : own ∉ field.names) :
    ∀ name ∈ field.names, Document.text own ≠ .text name := by
  rintro name held same
  obtain rfl : own = name := by simpa using same
  exact apart held

variable {validator : Validator} (lawful : validator.Lawful)

include lawful

theorem read_of_absent
    (nothing : present? field.names entries = none) :
    validator.readAlone field entries = field.absent := by
  cases usual : field.default with
  | some value => rw [lawful.readAlone_omitted field entries value nothing usual, absent, usual]
  | none => rw [lawful.readAlone_missing field entries nothing usual, absent, usual]

/-- A field is read alike where the same stands under its keys. -/
theorem read_congr
    (same : ∀ name ∈ field.names, valueOf? name other = valueOf? name entries) :
    validator.readAlone field other = validator.readAlone field entries := by
  have alike := present?_congr same
  cases found : present? field.names entries with
  | some held =>
      rw [lawful.readAlone_present field entries held.1 held.2 found,
        lawful.readAlone_present field other held.1 held.2 (alike.trans found)]
  | none => rw [field.read_of_absent lawful found, field.read_of_absent lawful (alike.trans found)]

/-- An entry under a key that is not the field's does nothing to what the field is read as. -/
theorem read_without
    {key value : Document} {before after : List (Document × Document)}
    (distinct : DistinctKeys (before ++ (key, value) :: after))
    (foreign : ∀ name ∈ field.names, key ≠ .text name) :
    validator.readAlone field (before ++ after) =
      validator.readAlone field (before ++ (key, value) :: after) := by
  apply field.read_congr lawful
  intro name own
  rw [distinct.valueOf?_middle, (isText_eq_false_iff key name).2 (foreign name own)]
  rfl

/-- A change of spelling elsewhere in the record does nothing to what a field is read as. -/
theorem respelled_read
    {changes : List Respelling}
    (elsewhere :
      ∀ name ∈ field.names, ∀ (α : Type) (outcome : Checked α),
        (outcome.below (.key name)).respelled changes = outcome.below (.key name)) :
    (validator.readAlone field entries).respelled changes = validator.readAlone field entries := by
  cases found : present? field.names entries with
  | some held =>
      rw [lawful.readAlone_present field entries held.1 held.2 found]
      exact elsewhere held.1 (name_mem_of_present? found) _ _
  | none =>
      rw [field.read_of_absent lawful found, absent]
      split
      · rfl
      · exact elsewhere field.name List.mem_cons_self _ _

end Field

/-! ## Records -/

theorem collect_respelled
    {result : Type} {changes : List Respelling} {fields : List Field}
    {read other : (field : Field) → Checked field.form.Value}
    (same : ∀ field ∈ fields, other field = (read field).respelled changes)
    (built : Checked (Builder result fields)) :
    collect other fields (built.respelled changes) =
      (collect read fields built).respelled changes := by
  induction fields with
  | nil => rfl
  | cons field rest ih =>
      obtain ⟨first, later⟩ := List.forall_mem_cons.1 same
      rw [collect, collect, first, ← ih later, Checked.respelled_apply]

/-- A record is read alike where its fields are, after changes of spelling. -/
theorem Kind.check_mapping_congr
    {validator : Validator} (lawful : validator.Lawful)
    {kind : Kind} {entries other : List (Document × Document)} {changes : List Respelling}
    (same :
      ∀ field ∈ kind.fields,
        validator.readAlone field other = (validator.readAlone field entries).respelled changes) :
    validator.alone (.record kind) (.mapping other) =
      (validator.alone (.record kind) (.mapping entries)).respelled changes := by
  rw [lawful.alone_record, lawful.alone_record, ← collect_respelled same]
  rfl

end Schema

end Blockwright
