import Blockwright.Schema.Project

/-!
# Places of records

A lawful validator goes from a record to its fields and from a list to its items, and
tells each part where it stands.  Since what has no parts does not look at its place,
neither does anything that is put together from it: a document is checked alike at every
place, and so alike on its own.

From here on documents are checked on their own.  The laws of `Validator.Lawful` are
restated for that, without places.
-/

namespace Blockwright.Schema

theorem itemsAt_congr
    {α : Type} {check : Nat → Document → Checked α} {alike : Document → Checked α}
    {documents : List Document}
    (same : ∀ index, ∀ document ∈ documents, check index document = alike document)
    (index : Nat) :
    itemsAt check index documents = items alike index documents := by
  induction documents generalizing index with
  | nil => rfl
  | cons document rest ih =>
      have first := same index document List.mem_cons_self
      have later := ih fun position other member =>
        same position other (List.mem_cons_of_mem _ member)
      rw [itemsAt, items, first, later]

theorem collect_congr
    {result : Type} {fields : List Field}
    {read other : (field : Field) → Checked field.form.Value}
    (same : ∀ field ∈ fields, other field = read field)
    (built : Checked (Builder result fields)) :
    collect other fields built = collect read fields built := by
  induction fields with
  | nil => rfl
  | cons field rest ih =>
      obtain ⟨first, later⟩ := List.forall_mem_cons.1 same
      rw [collect, collect, first, ih later]

/-- What stands under a key is part of the mapping. -/
theorem sizeOf_lt_of_present?
    {names : List String} {entries : List (Document × Document)}
    {name : String} {value : Document}
    (found : present? names entries = some (name, value)) :
    sizeOf value < sizeOf (Document.mapping entries) := by
  obtain ⟨candidate, -, held⟩ := List.exists_of_findSome?_eq_some found
  obtain ⟨_, under, pair⟩ := Option.map_eq_some_iff.1 held
  obtain rfl := (Prod.mk.inj pair).2
  clear found held pair
  induction entries with
  | nil => exact absurd under nofun
  | cons entry rest ih =>
      obtain ⟨key, first⟩ := entry
      rw [Document.valueOf?] at under
      split at under
      · cases under
        simp
        omega
      · have := ih under
        simp at this ⊢
        omega

/-- Only dictionaries are prepared for their check. -/
theorem Kind.prepare_or_dictionary
    {kind : Kind} {field : Field}
    (member : field ∈ kind.fields) :
    (∀ document, field.prepare document = document) ∨ field.form = .dictionary := by
  revert field
  cases kind <;> simp [Kind.fields]

namespace Validator.Lawful

variable {validator : Validator} (lawful : validator.Lawful)

include lawful

theorem check_of_eq_dictionary
    {form : Form}
    (dictionary : form = .dictionary)
    (place : List Step) (document : Document) :
    validator.check place form document = validator.check [] form document := by
  subst dictionary
  apply lawful.plain
  cases document <;> rfl

/-- A field is read alike wherever the documents in it are checked alike. -/
theorem read_eq
    {kind : Kind} {field : Field}
    (member : field ∈ kind.fields)
    {entries : List (Document × Document)}
    (alike :
      ∀ (place : List Step) (form : Form) (document : Document),
        sizeOf document < sizeOf (Document.mapping entries) →
          validator.check place form document = validator.check [] form document)
    (place : List Step) :
    validator.read place field entries = validator.read [] field entries := by
  cases found : present? field.names entries with
  | some held =>
      have inner := sizeOf_lt_of_present? found
      rw [lawful.present place field entries held.1 held.2 found,
        lawful.present [] field entries held.1 held.2 found]
      rcases Kind.prepare_or_dictionary member with kept | dictionary
      · rw [kept, alike _ _ _ inner, alike ([] ++ _) _ _ inner]
      · rw [lawful.check_of_eq_dictionary dictionary,
          lawful.check_of_eq_dictionary dictionary ([] ++ _)]
  | none =>
      cases usual : field.default with
      | some value =>
          rw [lawful.omitted place field entries value found usual,
            lawful.omitted [] field entries value found usual]
      | none =>
          rw [lawful.missing place field entries found usual,
            lawful.missing [] field entries found usual]

/-- Documents are checked alike at every place. -/
theorem check_eq
    (place : List Step) (form : Form) (document : Document) :
    validator.check place form document = validator.alone form document := by
  unfold alone
  induction size : sizeOf document using Nat.strongRecOn
    generalizing place form document with
  | ind bound within =>
      subst size
      induction form with
      | list item =>
          cases document with
          | list documents =>
              have inner (place : List Step) (document : Document)
                  (member : document ∈ documents) :
                  validator.check place item document = validator.check [] item document := by
                have smaller := List.sizeOf_lt_of_mem member
                exact within _ (by simp; omega) place item document rfl
              rw [lawful.list, lawful.list, itemsAt_congr fun _ => inner _,
                itemsAt_congr fun _ => inner _]
          | _ => exact lawful.plain _ _ _ rfl
      | nullable form ih =>
          by_cases null : document = .null
          · rw [null, lawful.null, lawful.null]
          · rw [lawful.notNull place form document null, lawful.notNull [] form document null, ih]
      | record kind =>
          cases document with
          | mapping entries =>
              rw [lawful.record, lawful.record]
              apply collect_congr
              intro field member
              refine lawful.read_eq member ?_ place
              intro place form document smaller
              exact within _ smaller place form document rfl
          | _ => exact lawful.plain _ _ _ rfl
      | _ =>
          apply lawful.plain
          cases document <;> rfl

/-! ## Documents on their own -/

theorem alone_record
    (kind : Kind) (entries : List (Document × Document)) :
    validator.alone (.record kind) (.mapping entries) =
      collect (validator.readAlone · entries) kind.fields (.valid kind.build) :=
  lawful.record [] kind entries

theorem readAlone_present
    (field : Field) (entries : List (Document × Document)) (name : String) (value : Document)
    (found : present? field.names entries = some (name, value)) :
    validator.readAlone field entries =
      (validator.alone field.form (field.prepare value)).below (.key name) := by
  rw [readAlone, lawful.present [] field entries name value found, lawful.check_eq]

theorem readAlone_omitted
    (field : Field) (entries : List (Document × Document)) (value : field.form.Value)
    (nothing : present? field.names entries = none)
    (usual : field.default = some value) :
    validator.readAlone field entries = .valid value :=
  lawful.omitted [] field entries value nothing usual

theorem readAlone_missing
    (field : Field) (entries : List (Document × Document))
    (nothing : present? field.names entries = none)
    (needed : field.default = none) :
    validator.readAlone field entries = (complain .missing).below (.key field.name) :=
  lawful.missing [] field entries nothing needed

theorem alone_list
    (item : Form) (documents : List Document) :
    validator.alone (.list item) (.list documents) =
      items (validator.alone item) 0 documents := by
  refine (lawful.list [] item documents).trans (itemsAt_congr ?_ 0)
  intro index document _
  exact lawful.check_eq ([] ++ [.index index]) item document

theorem alone_null
    (form : Form) :
    validator.alone (.nullable form) .null = .valid none :=
  lawful.null [] form

theorem alone_notNull
    (form : Form) (document : Document)
    (present : document ≠ .null) :
    validator.alone (.nullable form) document = (validator.alone form document).map some :=
  lawful.notNull [] form document present

theorem alone_empty : validator.alone .dictionary (.mapping []) = .valid [] :=
  lawful.empty []

end Validator.Lawful

end Blockwright.Schema
