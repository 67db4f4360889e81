import Mathlib.Data.List.Pairwise
import Blockwright.Proofs.Schema.Readings
import Blockwright.Proofs.Schema.Routes

/-!
# Documents that say the same

The same project can be written in many ways: with keys that mean nothing, with nulls
where a key may as well be missing, with either spelling of a key that has two, and with
the keys of a record in any order.  `Rewriting` is the relation between a document and
another one that differs from it in such ways, anywhere in it and any number of times.

No lawful validator can tell the two apart.  A project is built from both or from
neither, it is the same project, and what is wrong with one is wrong with the other in
the same order; only the steps to a place name a key by its new spelling where the key
was renamed.
-/

namespace Blockwright

namespace Schema

open Document

namespace Kind

/-- The keys of a kind of records that have a second spelling, with the one that wins. -/
def aliases : Kind → List (String × String)
  | .project => [("class_name", "className")]
  | .method => [("is_static", "isStatic"), ("return_type", "returnType")]
  | _ => []

/-- The keys of a kind of records under which null means what no key means. -/
def nullable : Kind → List String
  | .element => ["properties", "children", "position"]
  | _ => []

theorem ne_of_mem_aliases
    {kind : Kind} {old new : String}
    (spelled : (old, new) ∈ kind.aliases) :
    old ≠ new := by
  cases kind <;> simp [aliases] at spelled <;> grind

/-- A spelling of a key belongs to one field. -/
theorem eq_of_mem_names
    {kind : Kind} {field other : Field} {name : String}
    (member : field ∈ kind.fields)
    (own : name ∈ field.names)
    (otherMember : other ∈ kind.fields)
    (shared : name ∈ other.names) :
    field = other := by
  by_contra different
  have symmetric : Std.Symm (Function.onFun List.Disjoint Field.names) :=
    ⟨fun _ _ => List.disjoint_symm⟩
  have apart := (List.nodup_flatMap.1 kind.nodup_names).2.forall member otherMember different
  exact apart own shared

/-- Two spellings belong to one field, which has no others. -/
theorem names_of_mem_aliases
    {kind : Kind} {old new : String}
    (spelled : (old, new) ∈ kind.aliases)
    {field : Field}
    (member : field ∈ kind.fields) :
    field.names = [new, old] ∨ old ∉ field.names ∧ new ∉ field.names := by
  obtain ⟨owner, held, names⟩ : ∃ owner ∈ kind.fields, owner.names = [new, old] := by
    cases kind <;> simp [aliases] at spelled
    · exact ⟨_, .tail _ (.head _), by simp [Field.names, spelled]⟩
    · rcases spelled with ⟨rfl, rfl⟩ | ⟨rfl, rfl⟩
      · exact ⟨_, .tail _ (.head _), rfl⟩
      · exact ⟨_, .tail _ (.tail _ (.head _)), rfl⟩
  by_cases same : field = owner
  · exact Or.inl (same ▸ names)
  · refine Or.inr ⟨fun own => same ?_, fun own => same ?_⟩
    · exact eq_of_mem_names member own held (by simp [names])
    · exact eq_of_mem_names member own held (by simp [names])

section Entries

variable {validator : Validator} (lawful : validator.Lawful)

include lawful

/-- Where a key may be null, null is read as a missing key is. -/
theorem check_null_of_mem_nullable
    {kind : Kind} {name : String}
    (nullable : name ∈ kind.nullable)
    {field : Field}
    (member : field ∈ kind.fields)
    (own : name ∈ field.names) :
    field.names = [name] ∧
      (validator.alone field.form (field.prepare .null)).below (.key name) = field.absent := by
  obtain ⟨owner, held, names, null⟩ :
      ∃ owner ∈ kind.fields,
        owner.names = [name] ∧
          (validator.alone owner.form (owner.prepare .null)).below (.key name) =
            owner.absent := by
    cases kind <;> simp [Kind.nullable] at nullable
    rcases nullable with rfl | rfl | rfl
    · refine ⟨_, .tail _ (.tail _ (.tail _ (.head _))), rfl, ?_⟩
      exact congrArg (Checked.below _) lawful.alone_empty
    · refine ⟨_, .tail _ (.tail _ (.tail _ (.tail _ (.head _)))), rfl, ?_⟩
      exact congrArg (Checked.below _) (lawful.alone_null (.list (.record .element)))
    · refine ⟨_, .tail _ (.tail _ (.tail _ (.tail _ (.tail _ (.head _))))), rfl, ?_⟩
      exact congrArg (Checked.below _) (lawful.alone_null (.record .position))
  obtain rfl := eq_of_mem_names member own held (by simp [names])
  exact ⟨names, null⟩

variable {kind : Kind} {field : Field} (member : field ∈ kind.fields)
  {before after : List (Document × Document)} {old new : String} {value : Document}

include member

/-- A key that is null is read as a missing key where it may be null. -/
theorem read_clear
    (nullable : old ∈ kind.nullable)
    (distinct : DistinctKeys (before ++ (.text old, .null) :: after)) :
    validator.readAlone field (before ++ after) =
      validator.readAlone field (before ++ (.text old, .null) :: after) := by
  by_cases own : old ∈ field.names
  · obtain ⟨names, null⟩ := check_null_of_mem_nullable lawful nullable member own
    have found :
        present? field.names (before ++ (.text old, .null) :: after) = some (old, .null) := by
      simp [names, present?, distinct.valueOf?_middle, isText]
    have nothing : present? field.names (before ++ after) = none := by
      simp [names, present?, distinct.valueOf?_without]
    rw [lawful.readAlone_present _ _ _ _ found, field.read_of_absent lawful nothing, null]
  · exact field.read_without lawful distinct (field.foreign own)

/-- A key in its second spelling is read alike in the first, but named by it. -/
theorem read_rename
    (spelled : (old, new) ∈ kind.aliases)
    (distinct : DistinctKeys (before ++ (.text old, value) :: after))
    (free : valueOf? new (before ++ (.text old, value) :: after) = none) :
    validator.readAlone field (before ++ (.text new, value) :: after) =
      (validator.readAlone field (before ++ (.text old, value) :: after)).respelled
        [⟨[], old, new⟩] := by
  have renamed := distinct.rename free
  rcases names_of_mem_aliases spelled member with own | ⟨oldApart, newApart⟩
  · have held : valueOf? old (before ++ (.text old, value) :: after) = some value := by
      simp [distinct.valueOf?_middle, isText]
    have found :
        present? field.names (before ++ (.text old, value) :: after) = some (old, value) := by
      simp [own, present?, free, held]
    have anew :
        present? field.names (before ++ (.text new, value) :: after) = some (new, value) := by
      simp [own, present?, renamed.valueOf?_middle, isText]
    rw [lawful.readAlone_present _ _ _ _ found, lawful.readAlone_present _ _ _ _ anew,
      Checked.respelled_below_key, if_pos rfl]
  · have untouched :
        (validator.readAlone field (before ++ (.text old, value) :: after)).respelled
            [⟨[], old, new⟩] =
          validator.readAlone field (before ++ (.text old, value) :: after) := by
      apply field.respelled_read lawful
      intro name own α outcome
      have other : name ≠ old := fun same => oldApart (same ▸ own)
      rw [Checked.respelled_below_key, if_neg other]
    rw [untouched, ← field.read_without lawful distinct (field.foreign oldApart),
      field.read_without lawful renamed (field.foreign newApart)]

/-- A key in its second spelling is not read where the first is there. -/
theorem read_shed
    (spelled : (old, new) ∈ kind.aliases)
    (distinct : DistinctKeys (before ++ (.text old, value) :: after))
    (outdone : valueOf? new (before ++ (.text old, value) :: after) ≠ none) :
    validator.readAlone field (before ++ after) =
      validator.readAlone field (before ++ (.text old, value) :: after) := by
  rcases names_of_mem_aliases spelled member with own | ⟨oldApart, -⟩
  · obtain ⟨winner, held⟩ := Option.ne_none_iff_exists'.1 outdone
    have other : (Document.text old).isText new = false := by
      simpa [isText] using ne_of_mem_aliases spelled
    have kept : valueOf? new (before ++ after) = some winner := by
      simpa [distinct.valueOf?_middle, other] using held
    have found :
        present? field.names (before ++ (.text old, value) :: after) = some (new, winner) := by
      simp [own, present?, held]
    have still : present? field.names (before ++ after) = some (new, winner) := by
      simp [own, present?, kept]
    rw [lawful.readAlone_present _ _ _ _ found, lawful.readAlone_present _ _ _ _ still]
  · exact field.read_without lawful distinct (field.foreign oldApart)

end Entries

end Kind

/-! ## Rewritings -/

section Rewriting

variable {kind owner item : Kind} {changes more : List Respelling}

/--
A change of a record's entries that leaves alone what the record says, with the keys
that it spells anew.
-/
inductive Edit (kind : Kind) :
    List (String × String) → List (Document × Document) → List (Document × Document) → Prop
  /-- A key is removed that the record does not know. -/
  | forget
      {before after : List (Document × Document)} {key value : Document}
      (unknown : ∀ field ∈ kind.fields, ∀ name ∈ field.names, key ≠ .text name) :
      Edit kind [] (before ++ (key, value) :: after) (before ++ after)
  /-- A key is removed whose value is null, which means what no key means. -/
  | clear
      {before after : List (Document × Document)} {name : String}
      (nullable : name ∈ kind.nullable) :
      Edit kind [] (before ++ (.text name, .null) :: after) (before ++ after)
  /-- A key is spelled in the way that wins, which no other key is. -/
  | rename
      {before after : List (Document × Document)} {old new : String} {value : Document}
      (spelled : (old, new) ∈ kind.aliases)
      (free : valueOf? new (before ++ (.text old, value) :: after) = none) :
      Edit kind [(old, new)] (before ++ (.text old, value) :: after)
        (before ++ (.text new, value) :: after)
  /-- A key is removed that is also there in the spelling that wins, whatever its value. -/
  | shed
      {before after : List (Document × Document)} {old new : String} {value : Document}
      (spelled : (old, new) ∈ kind.aliases)
      (outdone : valueOf? new (before ++ (.text old, value) :: after) ≠ none) :
      Edit kind [] (before ++ (.text old, value) :: after) (before ++ after)
  /-- The keys are put in another order. -/
  | reorder
      {entries reordered : List (Document × Document)}
      (same : entries.Perm reordered) :
      Edit kind [] entries reordered

/-- The keys of a record itself that are spelled anew. -/
def ofSpellings (spellings : List (String × String)) : List Respelling :=
  spellings.map fun (old, new) => ⟨[], old, new⟩

section Lawful

variable {validator : Validator} (lawful : validator.Lawful)

include lawful

/-- An edit changes what no field is read as. -/
theorem Edit.read_eq
    {spellings : List (String × String)} {entries other : List (Document × Document)}
    (edit : Edit kind spellings entries other)
    (distinct : DistinctKeys entries)
    {field : Field}
    (member : field ∈ kind.fields) :
    validator.readAlone field other =
      (validator.readAlone field entries).respelled (ofSpellings spellings) := by
  have unspelled (same : validator.readAlone field other = validator.readAlone field entries) :
      validator.readAlone field other =
        (validator.readAlone field entries).respelled (ofSpellings []) := by
    rw [ofSpellings, List.map_nil, Checked.respelled_nil, same]
  cases edit with
  | forget unknown =>
      exact unspelled (field.read_without lawful distinct (unknown field member))
  | clear nullable => exact unspelled (Kind.read_clear lawful member nullable distinct)
  | rename spelled free => exact Kind.read_rename lawful member spelled distinct free
  | shed spelled outdone => exact unspelled (Kind.read_shed lawful member spelled distinct outdone)
  | reorder same =>
      exact unspelled
        (field.read_congr lawful fun name _ => distinct.valueOf?_perm same name)

/-- A record is read alike where the value under one key is, after changes of spelling in it. -/
theorem Kind.check_replaced
    {name : String} {value other : Document} {before after : List (Document × Document)}
    (distinct : DistinctKeys (before ++ (.text name, value) :: after))
    {changed : Field}
    (changedMember : changed ∈ owner.fields)
    (names : changed.names = [name])
    (same :
      validator.alone changed.form (changed.prepare other) =
        (validator.alone changed.form (changed.prepare value)).respelled changes) :
    validator.alone (.record owner) (.mapping (before ++ (.text name, other) :: after)) =
      (validator.alone (.record owner)
        (.mapping (before ++ (.text name, value) :: after))).respelled
          (changes.map (Respelling.beneath [.key name])) := by
  have otherDistinct := distinct.replace other
  apply Kind.check_mapping_congr lawful
  intro field member
  by_cases own : name ∈ field.names
  · obtain rfl := Kind.eq_of_mem_names member own changedMember (by simp [names])
    have found :
        present? field.names (before ++ (.text name, value) :: after) = some (name, value) := by
      simp [names, present?, distinct.valueOf?_middle, isText]
    have replaced :
        present? field.names (before ++ (.text name, other) :: after) = some (name, other) := by
      simp [names, present?, otherDistinct.valueOf?_middle, isText]
    rw [lawful.readAlone_present _ _ _ _ found, lawful.readAlone_present _ _ _ _ replaced,
      Checked.respelled_below, same]
  · have untouched :
        (validator.readAlone field (before ++ (.text name, value) :: after)).respelled
            (changes.map (Respelling.beneath [.key name])) =
          validator.readAlone field (before ++ (.text name, value) :: after) := by
      apply field.respelled_read lawful
      intro key held α outcome
      apply Checked.respelled_below_of_ne
      intro equal
      have spelled : key = name := by simpa [String.toList_inj] using equal
      exact own (spelled ▸ held)
    rw [untouched, ← field.read_without lawful distinct (field.foreign own),
      field.read_without lawful otherDistinct (field.foreign own)]

end Lawful

/-! ## Rewritings inside a record -/

theorem items_respelled_of_lt
    {α : Type} (check : Document → Checked α)
    {index start : Nat}
    (later : index < start)
    (documents : List Document) :
    (items check start documents).respelled (changes.map (Respelling.beneath [.index index])) =
      items check start documents := by
  induction documents generalizing start with
  | nil => rfl
  | cons document rest ih =>
      have other : Step.index start ≠ .index index := by
        simp only [ne_eq, Step.index.injEq]
        omega
      simp [items, Checked.respelled_below_of_ne other, ih (Nat.lt_succ_of_lt later)]

/-- An item that is read alike, after changes of spelling in it, is read alike in its list. -/
theorem items_respelled
    {α : Type} {check : Document → Checked α}
    {document other : Document}
    (same : check other = (check document).respelled changes)
    (earlier later : List Document) (start : Nat) :
    items check start (earlier ++ other :: later) =
      (items check start (earlier ++ document :: later)).respelled
        (changes.map (Respelling.beneath [.index (start + earlier.length)])) := by
  induction earlier generalizing start with
  | nil =>
      simp [items, same, Checked.respelled_below,
        items_respelled_of_lt check (Nat.lt_succ_self start)]
  | cons first rest ih =>
      have before : Step.index start ≠ .index (start + (rest.length + 1)) := by
        simp only [ne_eq, Step.index.injEq]
        omega
      have deeper : start + 1 + rest.length = start + (rest.length + 1) := by omega
      simp [items, Checked.respelled_below_of_ne before, ih, deeper]

/--
Documents that differ in nothing that a record of a kind says, with the keys that are
spelled anew.  Edits may be made in the record, in the records of its lists and in a
position, one after the other.
-/
inductive Rewriting : Kind → List Respelling → Document → Document → Prop
  | refl {kind : Kind} (document : Document) : Rewriting kind [] document document
  | trans
      {kind : Kind} {changes more : List Respelling} {first second third : Document}
      (start : Rewriting kind changes first second)
      (continued : Rewriting kind more second third) :
      Rewriting kind (changes ++ more) first third
  | edit
      {kind : Kind} {spellings : List (String × String)}
      {entries other : List (Document × Document)}
      (distinct : DistinctKeys entries)
      (edit : Edit kind spellings entries other) :
      Rewriting kind (ofSpellings spellings) (.mapping entries) (.mapping other)
  | item
      {owner item : Kind} {changes : List Respelling}
      (holding : Holding owner item)
      {before after : List (Document × Document)} {earlier later : List Document}
      {document other : Document}
      (distinct :
        DistinctKeys
          (before ++ (.text holding.key, .list (earlier ++ document :: later)) :: after))
      (inner : Rewriting item changes document other) :
      Rewriting owner
        (changes.map (Respelling.beneath [.key holding.key, .index earlier.length]))
        (.mapping (before ++ (.text holding.key, .list (earlier ++ document :: later)) :: after))
        (.mapping (before ++ (.text holding.key, .list (earlier ++ other :: later)) :: after))
  | position
      {changes : List Respelling}
      {before after entries other : List (Document × Document)}
      (distinct : DistinctKeys (before ++ (.text "position", .mapping entries) :: after))
      (inner : Rewriting .position changes (.mapping entries) (.mapping other)) :
      Rewriting .element
        (changes.map (Respelling.beneath [.key "position"]))
        (.mapping (before ++ (.text "position", .mapping entries) :: after))
        (.mapping (before ++ (.text "position", .mapping other) :: after))

/-- A rewritten record is read alike, but for the keys that are spelled anew. -/
theorem Rewriting.check_eq
    {validator : Validator} (lawful : validator.Lawful)
    {document other : Document}
    (rewriting : Rewriting kind changes document other) :
    validator.alone (.record kind) other =
      (validator.alone (.record kind) document).respelled changes := by
  induction rewriting with
  | refl document => exact (Checked.respelled_nil _).symm
  | trans _ _ startIH continuedIH => rw [continuedIH, startIH, Checked.respelled_append]
  | edit distinct edit =>
      exact Kind.check_mapping_congr lawful fun field member => edit.read_eq lawful distinct member
  | @item owner item changes holding before after earlier later document other distinct _ ih =>
      have deeper :
          changes.map (Respelling.beneath [.key holding.key, .index earlier.length]) =
            (changes.map (Respelling.beneath [.index earlier.length])).map
              (Respelling.beneath [.key holding.key]) := by
        rw [List.map_map]
        rfl
      have itemsSame := items_respelled ih earlier later 0
      rw [Nat.zero_add] at itemsSame
      rw [deeper]
      apply Kind.check_replaced lawful distinct holding.field_mem_fields holding.names_field
      rw [holding.prepare_field, holding.prepare_field, holding.check_list lawful,
        holding.check_list lawful, itemsSame, Checked.respelled_map]
  | @position changes before after entries other distinct _ ih =>
      let place : Field :=
        { name := "position", form := .nullable (.record .position), default := some none }
      have held : place ∈ Kind.element.fields := by simp [place, Kind.fields]
      have present (entries : List (Document × Document)) :
          validator.alone place.form (.mapping entries) =
            (validator.alone (.record .position) (.mapping entries)).map some :=
        lawful.alone_notNull (.record .position) (.mapping entries) (by simp)
      apply Kind.check_replaced lawful distinct held rfl
      change validator.alone place.form (.mapping other) =
        (validator.alone place.form (.mapping entries)).respelled changes
      rw [present, present, ih, Checked.respelled_map]

/-- Only mappings are rewritten, and they are rewritten to mappings. -/
theorem Rewriting.eq_or_mappings
    {document other : Document}
    (rewriting : Rewriting kind changes document other) :
    other = document ∨
      ∃ entries others, document = .mapping entries ∧ other = .mapping others := by
  induction rewriting with
  | refl document => exact Or.inl rfl
  | trans _ _ startIH continuedIH =>
      rcases startIH with rfl | ⟨entries, others, rfl, rfl⟩
      · exact continuedIH
      · rcases continuedIH with rfl | ⟨-, last, -, rfl⟩
        · exact Or.inr ⟨entries, others, rfl, rfl⟩
        · exact Or.inr ⟨entries, last, rfl, rfl⟩
  | edit => exact Or.inr ⟨_, _, rfl, rfl⟩
  | item => exact Or.inr ⟨_, _, rfl, rfl⟩
  | position => exact Or.inr ⟨_, _, rfl, rfl⟩

end Rewriting

end Schema

/--
A fault in loading after keys of the document were spelled anew, with the report on
the document as it is then.
-/
def LoadFault.respelled
    (packages : Packages) (changes : List Schema.Respelling) (document : Document) :
    LoadFault → LoadFault
  | .refused ⟨subject, path, .invalid violations _⟩ =>
      let renamed := violations.map (Schema.Violation.respelled changes)
      .refused ⟨subject, path, .invalid renamed (packages.report subject.model document renamed)⟩
  | fault => fault

namespace Loading

open Schema

/--
Documents that say the same are read alike: they give the same project, or the same
violations in the same order, whose places name the keys as they are spelled anew.
-/
theorem project_rewritten
    {packages : Packages} (documented : packages.Documented) (lawful : packages.validator.Lawful)
    (path : Option Path) {changes : List Respelling} {document other : Document}
    (rewriting : Rewriting .project changes document other) :
    project packages path other =
      (project packages path document).mapError (LoadFault.respelled packages changes other) := by
  have checked := rewriting.check_eq lawful
  have mappings {entries others : List (Document × Document)}
      (same :
        packages.validator.alone (.record .project) (.mapping others) =
          (packages.validator.alone (.record .project) (.mapping entries)).respelled changes) :
      project packages path (.mapping others) =
        (project packages path (.mapping entries)).mapError
          (LoadFault.respelled packages changes (.mapping others)) := by
    rw [project, project, accept_eq documented, accept_eq documented, same]
    cases packages.validator.alone (.record .project) (.mapping entries) <;> rfl
  rcases rewriting.eq_or_mappings with rfl | ⟨entries, others, rfl, rfl⟩
  · cases other with
    | mapping entries => exact mappings checked
    | _ => rfl
  · exact mappings checked

/-- A project with one method, which has a flag that cannot be read and one element. -/
def flagged (flag : String) (element : List (Document × Document)) : Document :=
  .mapping [(.text "methods", .list [.mapping [
    (.text flag, .text "maybe"), (.text "elements", .list [.mapping element])]])]

/--
A flag spelled in the way that wins, and children that are no longer null, leave the
report as it was but for the spelling.
-/
theorem flagged_rewritten :
    let packages := Packages.standard
    (packages.Documented ∧ packages.validator.Lawful) ∧
      Rewriting .project [⟨[.key "methods", .index 0], "is_static", "isStatic"⟩]
        (flagged "is_static" [(.text "children", .null), (.text "type", .integer 5)])
        (flagged "isStatic" [(.text "type", .integer 5)]) ∧
      reported (project packages none (flagged "isStatic" [(.text "type", .integer 5)])) = [
        ⟨[.key "methods", .index 0, .key "isStatic"], .unreadableBool⟩,
        ⟨[.key "methods", .index 0, .key "elements", .index 0, .key "type"], .notText⟩] := by
  intro packages
  have documented : packages.Documented := Packages.standard_documented
  have lawful : packages.validator.Lawful := standard_lawful
  let bare : List (Document × Document) := [(.text "type", .integer 5)]
  let full : List (Document × Document) := (.text "children", .null) :: bare
  have cleared : Rewriting .element [] (.mapping full) (.mapping bare) :=
    .edit (by simp [bare, Document.DistinctKeys])
      (@Edit.clear .element [] bare "children" (by simp [Kind.nullable]))
  have spelled :
      Rewriting .method [⟨[], "is_static", "isStatic"⟩]
        (.mapping [(.text "is_static", .text "maybe"), (.text "elements", .list [.mapping full])])
        (.mapping [(.text "isStatic", .text "maybe"), (.text "elements", .list [.mapping full])]) :=
    .edit (by simp [Document.DistinctKeys])
      (@Edit.rename .method [] _ "is_static" "isStatic" _ (by simp [Kind.aliases])
        (by simp [Document.valueOf?, Document.isText]))
  have inMethod := Rewriting.trans spelled
    (@Rewriting.item .method .element [] .elements
      [(.text "isStatic", .text "maybe")] [] [] [] _ _
      (by simp [Document.DistinctKeys, Holding.key, Holding.field]) cleared)
  have rewriting := @Rewriting.item .project .method _ .methods [] [] [] [] _ _
    (by simp [Document.DistinctKeys]) inMethod
  refine ⟨⟨documented, lawful⟩, rewriting, ?_⟩
  have outcome := project_rewritten documented lawful none rewriting
  exact (congrArg reported outcome).trans rfl

end Loading

end Blockwright
