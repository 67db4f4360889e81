import Blockwright.Proofs.CollectedUtilities

/-!
# What writing a project reports

The records of writing a project say what was degraded: a language that is no target,
then each element whose type is outside the vocabulary, then the utilities that are
defined for the class.  The elements are those that are written, in the order of the
methods, so what stands below an element that is no block is not reported.

The file itself shows the same elements.  Its outline leaves open the entries of the
methods, and each of its elements outside the vocabulary is one comment line.
-/

namespace Blockwright

/-! ## Unknown types -/

/-- The type of an element, if it is outside the vocabulary. -/
def Element.unknownType? (element : Element) : Option String :=
  if element.tag? = none then some element.type else none

/-- The type outside the vocabulary for which an entry stands. -/
def Entry.unknownType? : Entry → Option String
  | .unknown type _ => some type
  | _ => none

/-- The type for which a record says that an element of it was written as a comment. -/
def Record.unknownType? : Record → Option Text
  | .noRenderer type => some type
  | _ => none

/-- An element stands in an outline for its type, if that is outside the vocabulary. -/
theorem Entry.unknownType?_eq
    (element : Element) (depth : Int) :
    element.unknownType? =
      match element.tag? with
      | none => unknownType? (.unknown element.type depth)
      | some (.utility kind) => unknownType? (.call kind depth)
      | _ => none := by
  rw [Element.unknownType?]
  rcases element.tag? with _ | (kind | kind | kind) <;> rfl

namespace Generator

variable (generator : Generator)

theorem unknownTypesIn_eq_filterMap
    (outline : List Entry) :
    unknownTypesIn outline = outline.filterMap Entry.unknownType? := by
  rw [unknownTypesIn]
  congr 1

/-- Writing an element is recorded by the types outside the vocabulary that are written. -/
theorem elementRecords_eq
    (depth : Int) (element : Element) :
    generator.elementRecords depth element =
      (element.rendered.filterMap Element.unknownType?).map fun type =>
        .noRenderer type.toList := by
  rw [elementRecords, unknownTypesIn_eq_filterMap,
    element.filterMap_outline _ (fun _ => rfl) Entry.unknownType?_eq]

theorem unknownTypes_eq
    (methods : List Method) :
    generator.unknownTypes methods =
      (methodsRendered methods).filterMap Element.unknownType? := by
  rw [unknownTypes, unknownTypesIn_eq_filterMap, methodsRendered, List.filterMap_flatMap,
    List.filterMap_flatMap]
  exact List.flatMap_congr fun method _ =>
    filterMap_methodOutline _ (fun _ => rfl) Entry.unknownType?_eq generator 0 method

/-! ## The outline of a file -/

/-- The outline of the class body of a project's file; in Python it is never empty. -/
def bodyOutline (project : Project) : List Entry :=
  let depth := generator.language.memberDepth project
  if generator.language = .python ∧ generator.members depth project.methods = [] then
    (generator.lines 1 "pass").map .line
  else
    setApart
      (project.methods.map (generator.methodOutline depth) ++
        generator.hoisted.map fun utility => (generator.definition depth utility).map .line)

/-- The outline of a project's file: finished lines but for the entries of its methods. -/
def fileOutline (project : Project) : List Entry :=
  (generator.prologue project).map .line ++ generator.bodyOutline project ++
    (generator.epilogue project).map .line

theorem render_bodyOutline
    (project : Project) :
    generator.render (generator.bodyOutline project) = generator.body project := by
  rw [bodyOutline, body]
  split
  · exact generator.render_map_line _
  · rw [render_setApart, members, List.map_append, List.map_map, List.map_map]
    congr 2
    apply List.map_congr_left
    intro utility _
    exact generator.render_map_line _

theorem render_fileOutline
    (project : Project) :
    generator.render (generator.fileOutline project) = generator.file project := by
  rw [fileOutline, render_append, render_append, render_map_line, render_map_line,
    render_bodyOutline, file_eq]

theorem eq_nil_of_members_eq_nil
    {depth : Int} {methods : List Method}
    (empty : generator.members depth methods = []) :
    methods = [] := by
  cases methods with
  | nil => rfl
  | cons method others =>
      rw [members, List.map_cons, List.cons_append, Layout.separated_cons] at empty
      exact absurd (List.append_eq_nil_iff.1 empty).1 (generator.methodLines_ne_nil depth method)

/-- The unknown types in the outline of a file are those of the elements that are written. -/
theorem filterMap_unknownType?_fileOutline
    (project : Project) :
    (generator.fileOutline project).filterMap Entry.unknownType? =
      (methodsRendered project.methods).filterMap Element.unknownType? := by
  have closed (text : Line) : Entry.unknownType? (.line text) = none := rfl
  rw [fileOutline, List.filterMap_append, List.filterMap_append,
    filterMap_map_line _ closed, filterMap_map_line _ closed, List.nil_append, List.append_nil,
    bodyOutline, methodsRendered]
  split
  · next empty =>
      rw [generator.eq_nil_of_members_eq_nil empty.2, filterMap_map_line _ closed]
      rfl
  · rw [filterMap_setApart _ closed, List.flatMap_append, List.flatMap_map, List.flatMap_map,
      List.filterMap_flatMap]
    simp only [filterMap_map_line _ closed,
      filterMap_methodOutline _ closed Entry.unknownType?_eq]
    simp

end Generator

/-! ## Records -/

theorem Language.mem_all
    (language : Language) :
    language ∈ all := by
  cases language <;> decide

theorem Project.language_eq_target_iff
    (project : Project) :
    project.language = project.target.name ↔
      project.language ∈ Language.all.map Language.name := by
  constructor
  · intro same
    exact List.mem_map.2 ⟨project.target, project.target.mem_all, same.symm⟩
  · intro named
    obtain ⟨language, _, same⟩ := List.mem_map.1 named
    rw [target, ← same, Language.resolve_name]

/-- A project whose language is none of the four is written in C#. -/
theorem Project.target_of_unnamed
    {project : Project}
    (unnamed : project.language ∉ Language.all.map Language.name) :
    project.target = .csharp := by
  have none : Language.ofName? project.language = none := by
    rw [Language.ofName?, List.find?_eq_none]
    intro language member same
    exact unnamed (List.mem_map.2 ⟨language, member, of_decide_eq_true same⟩)
  rw [target, Language.resolve, none]
  rfl

theorem Generator.hoisted_make
    (language : Language) (settings : Settings) (methods : List Method) :
    (make language settings methods).hoisted =
      if language.hoists settings then
        ((methodsRendered methods).filterMap Element.utility?).eraseDups
      else
        [] := by
  rw [make, collectUtilities_eq, firstOccurrences_eq_eraseDups]

/-- Utilities are defined for the class just if the language has this and one is written. -/
theorem Generator.hoisted_make_eq_nil_iff
    (language : Language) (settings : Settings) (methods : List Method) :
    (make language settings methods).hoisted = [] ↔
      ¬(language.hoists settings = true ∧
        (methodsRendered methods).filterMap Element.utility? ≠ []) := by
  rw [hoisted_make]
  split
  · next hoists =>
      cases (methodsRendered methods).filterMap Element.utility? with
      | nil => simp
      | cons first others => simp [hoists, List.eraseDups_cons]
  · next hoists => simp [hoists]

/-- The records of writing a file: the types outside the vocabulary, then the definitions. -/
theorem Generator.records_make
    (language : Language) (settings : Settings) (methods : List Method) :
    let generator := make language settings methods
    let written := methodsRendered methods
    generator.records methods =
      (written.filterMap Element.unknownType?).map (fun type => .noRenderer type.toList) ++
        if language.hoists settings = true ∧ written.filterMap Element.utility? ≠ [] then
          [.hoisting (generator.hoisted.map fun utility => utility.name.toList)]
        else
          [] := by
  intro generator written
  have none := hoisted_make_eq_nil_iff language settings methods
  rw [records, unknownTypes_eq]
  simp only [List.isEmpty_iff]
  by_cases defined : language.hoists settings = true ∧ written.filterMap Element.utility? ≠ []
  · rw [if_pos defined, if_neg (mt none.1 (not_not_intro defined))]
  · rw [if_neg defined, if_pos (none.2 defined)]

/-- The types in the records are those outside the vocabulary among the elements written. -/
theorem Generator.filterMap_unknownType?_records
    (language : Language) (settings : Settings) (methods : List Method) :
    ((make language settings methods).records methods).filterMap Record.unknownType? =
      ((methodsRendered methods).filterMap Element.unknownType?).map String.toList := by
  have reported (types : List String) :
      (types.map fun type => Record.noRenderer type.toList).filterMap Record.unknownType? =
        types.map String.toList := by
    induction types with
    | nil => rfl
    | cons type others ih => exact congrArg (type.toList :: ·) ih
  rw [records_make, List.filterMap_append, reported]
  split <;> simp [Record.unknownType?]

/-- The records of writing a project, with those of its file open. -/
theorem Project.records_eq
    (settings : Settings) (project : Project) :
    project.records settings =
      (if project.language ∈ Language.all.map Language.name then
          []
        else
          [.unknownLanguage project.language.toList "csharp"]) ++
        [.generating project.target.name.toList project.className.toList
          project.methods.length] ++
        (Generator.make project.target settings project.methods).records project.methods := by
  have language :
      (if project.language = project.target.name then
          []
        else
          [Record.unknownLanguage project.language.toList project.target.name.toList]) =
        if project.language ∈ Language.all.map Language.name then
          []
        else
          [Record.unknownLanguage project.language.toList "csharp"] := by
    by_cases named : project.language ∈ Language.all.map Language.name
    · rw [if_pos named, if_pos (project.language_eq_target_iff.2 named)]
    · rw [if_neg named, if_neg (mt project.language_eq_target_iff.1 named),
        target_of_unnamed named]
      rfl
  rw [records, recordsIn, language]

/--
The records of writing a project.  There is one for the language, just if it is none of the
four, one for the file, one for each element outside the vocabulary that is written, in the
order of the file, and one for the utilities that are defined for the class, just if the
language has such definitions and a utility is written.  The records of elements are those
of the comments that the file has in their place, each on one line.
-/
theorem Project.records_degraded
    (settings : Settings) (project : Project) :
    let generator := Generator.make project.target settings project.methods
    let written := methodsRendered project.methods
    let unknown := written.filterMap Element.unknownType?
    let used := written.filterMap Element.utility?
    let outline := generator.fileOutline project
    project.records settings =
        (if project.language ∈ Language.all.map Language.name then
          []
        else
          [.unknownLanguage project.language.toList "csharp"]) ++
        [.generating project.target.name.toList project.className.toList
          project.methods.length] ++
        (unknown.map (fun type => .noRenderer type.toList) ++
          if project.target.hoists settings = true ∧ used ≠ [] then
            [.hoisting (generator.hoisted.map fun utility => utility.name.toList)]
          else
            []) ∧
      generator.hoisted = (if project.target.hoists settings then used.eraseDups else []) ∧
      project.source settings = Text.ofLines (generator.render outline) ∧
      (project.records settings).filterMap Record.unknownType? =
        (outline.filterMap Entry.unknownType?).map String.toList ∧
      ∀ type depth,
        let line := generator.comment depth type.toList
        generator.entryLines (.unknown type depth) = [line] ∧ '\n' ∉ line := by
  intro generator written unknown used outline
  have file := Generator.records_make project.target settings project.methods
  have types := Generator.filterMap_unknownType?_records project.target settings project.methods
  refine ⟨?_, Generator.hoisted_make _ _ _, ?_, ?_, fun type depth => ⟨rfl, ?_⟩⟩
  · rw [project.records_eq, file]
  · rw [generator.render_fileOutline]
    rfl
  · rw [generator.filterMap_unknownType?_fileOutline, ← types, project.records_eq,
      List.filterMap_append, List.filterMap_append]
    split <;> rfl
  · exact generator.newline_not_mem_comment depth type.toList

end Blockwright
