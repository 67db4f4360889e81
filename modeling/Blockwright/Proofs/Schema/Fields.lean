import Mathlib.Data.List.Nodup
import Blockwright.Proofs.Schema.Places

/-!
# Fields of records

What a lawful validator reports of a record is what is wrong with its fields, in the
order of their declaration: with what stands under the key of each, and with the keys
that must be there and are not.  Lists are reported item by item.

A report *shows* a part under some steps if the violations it lists there are those
of the part alone, in their order.  Because no two fields share a spelling, and no two
items of a list a position, a record shows the value of each field and a list each
of its items; and what a part shows, the whole shows under the steps to both.
-/

namespace Blockwright.Schema

/-! ## Places of violations -/

namespace Violation

/-- A violation of a part, seen from above the steps that lead to the part. -/
def beneath (steps : List Step) (violation : Violation) : Violation :=
  { violation with path := steps ++ violation.path }

/-- Whether a violation is found at the end of steps, or further down. -/
def isUnder (steps : List Step) (violation : Violation) : Bool :=
  steps.isPrefixOf violation.path

@[simp]
theorem isUnder_nil : isUnder [] = fun _ => true :=
  rfl

@[simp]
theorem isUnder_below
    (first step : Step) (steps : List Step)
    (violation : Violation) :
    (violation.below step).isUnder (first :: steps) =
      (first == step && violation.isUnder steps) :=
  rfl

@[simp]
theorem beneath_nil : beneath [] = id :=
  rfl

theorem beneath_append (steps more : List Step) :
    beneath (steps ++ more) = beneath steps ∘ beneath more := by
  funext violation
  simp [beneath]

theorem isUnder_singleton_of_isUnder_cons
    {step : Step} {steps : List Step} {violation : Violation}
    (under : violation.isUnder (step :: steps) = true) :
    violation.isUnder [step] = true := by
  rw [isUnder, List.isPrefixOf_iff_prefix] at *
  exact (List.prefix_append [step] steps).trans under

end Violation

/-- A report lists under some steps exactly the violations of a part, in their order. -/
def Shows (report : List Violation) (steps : List Step) (part : List Violation) : Prop :=
  ∀ deeper : List Step,
    report.filter (Violation.isUnder (steps ++ deeper)) =
      (part.filter (Violation.isUnder deeper)).map (Violation.beneath steps)

namespace Shows

variable {report middle part : List Violation} {steps more : List Step}

theorem refl (report : List Violation) : Shows report [] report := by
  intro deeper
  simp

theorem trans (outer : Shows report steps middle) (inner : Shows middle more part) :
    Shows report (steps ++ more) part := by
  intro deeper
  rw [List.append_assoc, outer, inner, List.map_map, Violation.beneath_append]

theorem filter_eq (shown : Shows report steps part) :
    report.filter (Violation.isUnder steps) = part.map (Violation.beneath steps) := by
  have whole := shown []
  rwa [List.append_nil, Violation.isUnder_nil, List.filter_eq_self.2 fun _ _ => rfl] at whole

/-- A report in pieces shows the piece below a step if the others list nothing there. -/
theorem of_flatMap
    {α : Type} {pieces : α → List Violation}
    {before after : List α} {step : Step}
    (piece : α)
    (below : pieces piece = part.map (Violation.below step))
    (apart :
      ∀ other ∈ before ++ after, ∀ violation ∈ pieces other, violation.isUnder [step] = false) :
    Shows ((before ++ piece :: after).flatMap pieces) [step] part := by
  intro deeper
  have nothing
      {others : List α}
      (within : others ⊆ before ++ after) :
      (others.flatMap pieces).filter (Violation.isUnder (step :: deeper)) = [] := by
    rw [List.filter_eq_nil_iff]
    intro violation member under
    obtain ⟨other, otherMember, listed⟩ := List.mem_flatMap.1 member
    have inside := Violation.isUnder_singleton_of_isUnder_cons under
    rw [apart other (within otherMember) violation listed] at inside
    exact Bool.false_ne_true inside
  have inner :
      Violation.isUnder (step :: deeper) ∘ Violation.below step = Violation.isUnder deeper := by
    funext violation
    simp
  rw [List.singleton_append, List.flatMap_append, List.flatMap_cons, below, List.filter_append,
    List.filter_append, nothing (List.subset_append_left _ _),
    nothing (List.subset_append_right _ _), List.filter_map, inner, List.nil_append,
    List.append_nil]
  rfl

end Shows

/-! ## What is wrong with a document -/

/-- What is wrong with a document of a declared form, listed part by part. -/
def Form.wrong (validator : Validator) : Form → Document → List Violation
  | .list item, .list documents =>
      documents.zipIdx.flatMap fun (document, index) =>
        (item.wrong validator document).map (Violation.below (.index index))
  | .nullable _, .null => []
  | .nullable form, document => form.wrong validator document
  | form, document => (validator.alone form document).violations

/-- What is wrong with a field in the entries of a record. -/
def Field.wrong
    (validator : Validator) (field : Field)
    (entries : List (Document × Document)) : List Violation :=
  match present? field.names entries with
  | some (name, value) =>
      (field.form.wrong validator (field.prepare value)).map (Violation.below (.key name))
  | none => if field.default.isSome then [] else [⟨[.key field.name], .missing⟩]

theorem violations_items
    {α : Type} (check : Document → Checked α) (index : Nat)
    (documents : List Document) :
    (items check index documents).violations =
      (documents.zipIdx index).flatMap fun (document, index) =>
        (check document).violations.map (Violation.below (.index index)) := by
  induction documents generalizing index with
  | nil => rfl
  | cons document rest ih => simp [items, ih]

theorem violations_collect
    {result : Type} (read : (field : Field) → Checked field.form.Value)
    (fields : List Field) (built : Checked (Builder result fields)) :
    (collect read fields built).violations =
      built.violations ++ fields.flatMap fun field => (read field).violations := by
  induction fields with
  | nil => simp [collect]
  | cons field rest ih =>
      rw [collect, ih, Checked.violations_apply, List.flatMap_cons, List.append_assoc]

section Lawful

variable {validator : Validator} (lawful : validator.Lawful)

include lawful

/-- A lawful validator reports what is wrong part by part. -/
theorem Form.wrong_eq_violations (form : Form) (document : Document) :
    form.wrong validator document = (validator.alone form document).violations := by
  induction form generalizing document with
  | list item ih =>
      cases document with
      | list documents =>
          rw [lawful.alone_list, violations_items, Form.wrong]
          simp only [ih]
      | _ => rfl
  | nullable form ih =>
      by_cases null : document = .null
      · rw [null, lawful.alone_null]
        rfl
      · rw [lawful.alone_notNull form document null, Checked.violations_map, ← ih]
        cases document with
        | null => exact absurd rfl null
        | _ => rfl
  | _ => rfl

theorem Field.wrong_eq_violations
    (field : Field) (entries : List (Document × Document)) :
    field.wrong validator entries = (validator.readAlone field entries).violations := by
  rw [Field.wrong]
  cases found : present? field.names entries with
  | some held =>
      rw [lawful.readAlone_present field entries held.1 held.2 found, Checked.violations_below,
        ← Form.wrong_eq_violations lawful]
  | none =>
      cases usual : field.default with
      | some value => rw [lawful.readAlone_omitted field entries value found usual]; rfl
      | none => rw [lawful.readAlone_missing field entries found usual]; rfl

/-- What is reported of a record is what is wrong with its fields, in their order. -/
theorem Kind.violations_record
    (kind : Kind) (entries : List (Document × Document)) :
    (validator.alone (.record kind) (.mapping entries)).violations =
      kind.fields.flatMap fun field => field.wrong validator entries := by
  rw [lawful.alone_record, violations_collect]
  simp only [Checked.violations_valid, List.nil_append, Field.wrong_eq_violations lawful]

end Lawful

/-! ## What a report shows -/

section Shown

variable (validator : Validator)

/-- A list shows each of its items under the item's position. -/
theorem Form.shows_item
    (item : Form)
    {documents : List Document} {index : Nat} {document : Document}
    (found : documents[index]? = some document) :
    Shows ((Form.list item).wrong validator (.list documents)) [.index index]
      (item.wrong validator document) := by
  obtain ⟨before, after, rfl, rfl⟩ :
      ∃ before after, documents = before ++ document :: after ∧ before.length = index := by
    obtain ⟨inside, rfl⟩ := List.getElem?_eq_some_iff.1 found
    refine ⟨documents.take index, documents.drop (index + 1), ?_, ?_⟩
    · rw [List.getElem_cons_drop, List.take_append_drop]
    · exact List.length_take_of_le (Nat.le_of_lt inside)
  rw [Form.wrong, List.zipIdx_append, List.zipIdx_cons, Nat.zero_add]
  refine Shows.of_flatMap (document, before.length) rfl ?_
  rintro ⟨other, position⟩ numbered violation listed
  obtain ⟨inner, -, rfl⟩ := List.mem_map.1 listed
  have elsewhere : before.length ≠ position := by
    rcases List.mem_append.1 numbered with earlier | later
    · have := List.mem_zipIdx earlier
      omega
    · have := List.mem_zipIdx later
      omega
  simp [elsewhere]

theorem name_mem_of_present?
    {names : List String} {entries : List (Document × Document)}
    {name : String} {value : Document}
    (found : present? names entries = some (name, value)) :
    name ∈ names := by
  obtain ⟨candidate, member, held⟩ := List.exists_of_findSome?_eq_some found
  obtain ⟨_, -, pair⟩ := Option.map_eq_some_iff.1 held
  exact (Prod.mk.inj pair).1 ▸ member

/-- A field complains about its own keys alone. -/
theorem Field.isUnder_key_eq_false
    {field : Field} {name : String}
    (foreign : name ∉ field.names)
    (entries : List (Document × Document)) :
    ∀ violation ∈ field.wrong validator entries, violation.isUnder [.key name] = false := by
  have elsewhere (own : String) (member : own ∈ field.names) :
      name.toList ≠ own.toList := by
    intro same
    exact foreign (String.toList_inj.1 same ▸ member)
  intro violation member
  cases found : present? field.names entries with
  | some held =>
      rw [wrong, found] at member
      obtain ⟨inner, -, rfl⟩ := List.mem_map.1 member
      simp [elsewhere _ (name_mem_of_present? found)]
  | none =>
      rw [wrong, found] at member
      have first := elsewhere field.name List.mem_cons_self
      cases usual : field.default <;> simp [usual] at member
      simp [member, Violation.isUnder, List.isPrefixOf, first]

/-- A record shows the value of each of its fields if no two of them share a spelling. -/
theorem shows_field
    {fields : List Field}
    (distinct : (fields.flatMap Field.names).Nodup)
    {field : Field}
    (member : field ∈ fields)
    {entries : List (Document × Document)} {name : String} {value : Document}
    (found : present? field.names entries = some (name, value)) :
    Shows (fields.flatMap fun field => field.wrong validator entries) [.key name]
      (field.form.wrong validator (field.prepare value)) := by
  obtain ⟨before, after, rfl⟩ := List.append_of_mem member
  have own := name_mem_of_present? found
  refine Shows.of_flatMap field ?_ fun other within => ?_
  · simp [Field.wrong, found]
  · apply Field.isUnder_key_eq_false
    intro shared
    have pairwise := (List.nodup_flatMap.1 distinct).2
    rw [List.pairwise_append, List.pairwise_cons] at pairwise
    obtain ⟨-, ⟨later, -⟩, earlier⟩ := pairwise
    rcases List.mem_append.1 within with inBefore | inAfter
    · exact earlier other inBefore field List.mem_cons_self shared own
    · exact later other inAfter own shared

/-- No two fields of a record have a spelling of their keys in common. -/
theorem Kind.nodup_names (kind : Kind) : (kind.fields.flatMap Field.names).Nodup := by
  cases kind <;> decide

end Shown

end Blockwright.Schema
