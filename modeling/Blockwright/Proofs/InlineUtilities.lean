import Blockwright.Proofs.Staleness

/-!
# Utilities where they are used

A Java file may hold the definition of a utility wherever it is used, in place of one
definition for the class.  Both files have one outline: up to the end of the last method
they differ at the calls alone, which are a comment in one file and a definition, moved to
the depth of the call, in the other; behind the methods one file has the definitions for
the class and the other has nothing.  So they are the same file just if no utility is
written, and in the other languages the choice makes no difference at all.
-/

namespace Blockwright

/-! ## Blocks set apart -/

namespace Layout

theorem separated_append
    {front : List (List Line)}
    (some : front ≠ [])
    (back : List (List Line)) :
    separated (front ++ back) = separated front ++ back.flatMap ([] :: ·) := by
  cases front with
  | nil => exact absurd rfl some
  | cons block others => simp [separated_cons]

end Layout

namespace Generator

variable (generator : Generator)

/-- The entries of outlines with an empty line between neighbours. -/
def setApart : List (List Entry) → List Entry
  | [] => []
  | outline :: others => outline ++ others.flatMap (.line [] :: ·)

theorem render_setApart
    (outlines : List (List Entry)) :
    generator.render (setApart outlines) =
      Layout.separated (outlines.map generator.render) := by
  cases outlines with
  | nil => rfl
  | cons outline others =>
      have blank (later : List Entry) :
          generator.render (.line [] :: later) = [] :: generator.render later :=
        rfl
      have rest :
          generator.render (others.flatMap (.line [] :: ·)) =
            (others.map generator.render).flatMap ([] :: ·) := by
        rw [render, List.flatMap_assoc, List.flatMap_map]
        exact List.flatMap_congr fun later _ => blank later
      rw [setApart, render_append, rest, List.map_cons, Layout.separated_cons]

theorem filterMap_setApart
    {β : Type} (read : Entry → Option β)
    (closed : ∀ text : Line, read (.line text) = none)
    (outlines : List (List Entry)) :
    (setApart outlines).filterMap read = outlines.flatMap (·.filterMap read) := by
  cases outlines with
  | nil => rfl
  | cons outline others =>
      have blank (later : List Entry) :
          (Entry.line [] :: later).filterMap read = later.filterMap read :=
        List.filterMap_cons_none (closed [])
      simp only [setApart, List.filterMap_append, List.filterMap_flatMap, blank,
        List.flatMap_cons]

/-! ## Java files -/

/-- The lines of a Java file before its methods. -/
def javaOpening (project : Project) : List Line :=
  let package := namespaceLine project "package " ";"
  (if package.isEmpty then [] else package ++ [[]]) ++ javaPrologue ++
    [[], "public class ".toList ++ project.className.toList ++ [' ', '{']]

/-- The outline of a Java file up to the end of its methods. -/
def javaOutline (project : Project) : List Entry :=
  (javaOpening project).map .line ++ setApart (project.methods.map (generator.methodOutline 1))

/-- The lines of an entry when each utility is defined where it is used. -/
def linesInPlace : Entry → List Line
  | .call utility depth => generator.definition depth utility
  | entry => generator.entryLines entry

variable (settings : Settings) (project : Project)

/-- The calls of an outline are the utilities that are written, in order. -/
theorem calls_javaOutline :
    (generator.javaOutline project).filterMap Entry.utility? =
      project.methods.flatMap fun method =>
        (elementsRendered method.elements).filterMap Element.utility? := by
  have closed (text : Line) : Entry.utility? (.line text) = none := rfl
  rw [javaOutline, List.filterMap_append, filterMap_map_line _ closed, List.nil_append,
    filterMap_setApart _ closed, List.flatMap_map]
  exact List.flatMap_congr fun method _ =>
    filterMap_methodOutline _ closed Entry.utility?_eq generator 1 method

/-- A Java file: its outline, then the definitions for the class, an empty line before each. -/
theorem file_java_eq :
    let generator := make .java settings project.methods
    generator.file project =
      generator.render (generator.javaOutline project) ++
        generator.hoisted.flatMap (fun utility => [] :: generator.definition 1 utility) ++
        [closingBrace] := by
  intro generator
  let blocks := project.methods.map (generator.methodLines 1)
  have separate :
      generator.members 1 project.methods =
        Layout.separated blocks ++
          generator.hoisted.flatMap (fun utility => [] :: generator.definition 1 utility) := by
    rw [members]
    cases methods : project.methods with
    | nil =>
        have none : generator.hoisted = [] := by
          simp only [generator, make, methods]
          exact ite_self []
        simp [blocks, methods, none]
    | cons method others =>
        rw [← methods, Layout.separated_append (by simp [methods]), List.flatMap_map]
  have outline :
      generator.render (generator.javaOutline project) =
        javaOpening project ++ Layout.separated blocks := by
    rw [javaOutline, render_append, render_map_line, render_setApart, List.map_map]
    rfl
  have file :
      generator.file project =
        javaOpening project ++ (generator.members 1 project.methods ++ [closingBrace]) := by
    change generator.javaFile project = _
    simp only [javaFile, outermostClass, javaOpening, List.append_assoc, List.cons_append,
      List.nil_append]
  rw [file, separate, outline]
  simp only [List.append_assoc]

/-! ## The two files -/

/-- The source of a Java utility begins with a modifier, and thus not like a comment. -/
theorem exists_utilityHeader_java
    (utility : Utility) :
    ∃ rest, Language.java.utilityHeader utility = some ('p' :: rest) := by
  have begins :
      ∃ header ∈ Language.java.utilityHeader utility, header.head? = some 'p' := by
    cases utility
    all_goals
      refine ⟨_, rfl, ?_⟩
      rw [String.toList_ofList]
      rfl
  obtain ⟨header, own, letter⟩ := begins
  obtain ⟨rest, spelled⟩ := List.head?_eq_some_iff.1 letter
  exact ⟨rest, own.trans (congrArg some spelled)⟩

/-- A definition and the comment that stands for it differ behind the spaces of their depth. -/
theorem definition_ne_comment
    (java : generator.language = .java)
    (depth : Int) (utility : Utility) (text : Text) (first second : List Line) :
    Text.ofLines (generator.definition depth utility ++ first) ≠
      Text.ofLines (generator.comment depth text :: second) := by
  obtain ⟨rest, header⟩ := exists_utilityHeader_java utility
  have head := generator.head?_definition depth utility
  rw [java, header, Option.map_some] at head
  obtain ⟨others, definition⟩ := List.head?_eq_some_iff.1 head
  rw [definition, comment, Layout.comment, java]
  intro same
  simp only [Text.ofLines, List.flatMap_cons, List.cons_append, List.append_assoc] at same
  have begins := List.append_cancel_left same
  simp [Language.commentMark] at begins

theorem flatMap_linesInPlace_of_no_calls
    {outline : List Entry}
    (none : outline.filterMap Entry.utility? = []) :
    outline.flatMap generator.linesInPlace = generator.render outline := by
  rw [List.filterMap_eq_nil_iff] at none
  apply List.flatMap_congr
  intro entry member
  cases entry with
  | line text => rfl
  | call utility depth => exact absurd (none _ member) (Option.some_ne_none utility)
  | unknown type depth => rfl

/-- Calls always show: with none the lines of an outline are the same, and with one they differ. -/
theorem filterMap_utility?_eq_nil_of_ofLines_eq
    (java : generator.language = .java)
    (hoists : generator.hoists = true)
    {outline : List Entry} {first second : List Line}
    (same :
      Text.ofLines (outline.flatMap generator.linesInPlace ++ first) =
        Text.ofLines (generator.render outline ++ second)) :
    outline.filterMap Entry.utility? = [] := by
  have cancel {shared first second : List Line}
      (same : Text.ofLines (shared ++ first) = Text.ofLines (shared ++ second)) :
      Text.ofLines first = Text.ofLines second := by
    rw [Text.ofLines_append, Text.ofLines_append] at same
    exact List.append_cancel_left same
  induction outline with
  | nil => rfl
  | cons entry others ih =>
      rw [render, List.flatMap_cons, List.flatMap_cons, List.append_assoc, List.append_assoc]
        at same
      cases entry with
      | call utility depth =>
          rw [linesInPlace, entryLines, if_pos hoists] at same
          exact absurd same (generator.definition_ne_comment java depth utility _ _ _)
      | line text | unknown type depth => exact ih (cancel same)

/--
Defining utilities where they are used only moves them.  Both Java files have the lines of
one outline, whose calls are the utilities that are written: a call is a comment line in the
one and the definition, moved to the depth of the call, in the other.  Behind the methods the
first has a definition for each utility that is called, an empty line before each, and the
second has nothing.  The two are the same just if no utility is written, and in the other
languages they always are.
-/
theorem inlineUtilities_moves
    (settings : Settings) (project : Project) :
    let hoisting := make .java { settings with inlineUtilities := false } project.methods
    let inlining := make .java { settings with inlineUtilities := true } project.methods
    let outline := hoisting.javaOutline project
    let called := outline.filterMap Entry.utility?
    (called =
        project.methods.flatMap fun method =>
          (elementsRendered method.elements).filterMap Element.utility?) ∧
      hoisting.file project =
        hoisting.render outline ++
          called.eraseDups.flatMap (fun utility => [] :: hoisting.definition 1 utility) ++
          [closingBrace] ∧
      inlining.file project = outline.flatMap hoisting.linesInPlace ++ [closingBrace] ∧
      (∀ utility depth,
        hoisting.entryLines (.call utility depth) =
            [hoisting.comment depth (hoisting.callText utility)] ∧
          hoisting.linesInPlace (.call utility depth) =
            Layout.lines settings.indentWidth depth (Language.java.utilitySource utility)) ∧
      (inlining.source project = hoisting.source project ↔ called = []) ∧
      project.sourceIn .csharp { settings with inlineUtilities := true } =
        project.sourceIn .csharp { settings with inlineUtilities := false } ∧
      project.sourceIn .javascript { settings with inlineUtilities := true } =
        project.sourceIn .javascript { settings with inlineUtilities := false } ∧
      project.sourceIn .python { settings with inlineUtilities := true } =
        project.sourceIn .python { settings with inlineUtilities := false } := by
  intro hoisting inlining outline called
  have hoisted : hoisting.hoisted = called.eraseDups := by
    have collected : hoisting.hoisted = collectUtilities project.methods := rfl
    have written : called = _ := hoisting.calls_javaOutline project
    rw [collected, collectUtilities, firstOccurrences_eq_eraseDups, written]
    congr 1
    exact List.flatMap_congr fun method _ => elementsUses_eq_filterMap_rendered method.elements
  have hoistingFile :
      hoisting.file project =
        hoisting.render outline ++
          called.eraseDups.flatMap (fun utility => [] :: hoisting.definition 1 utility) ++
          [closingBrace] := by
    rw [← hoisted]
    exact file_java_eq { settings with inlineUtilities := false } project
  have inliningFile :
      inlining.file project = outline.flatMap hoisting.linesInPlace ++ [closingBrace] := by
    have inPlace : inlining.entryLines = hoisting.linesInPlace := by
      funext entry
      cases entry <;> rfl
    have file :
        inlining.file project =
          inlining.render outline ++
            inlining.hoisted.flatMap (fun utility => [] :: inlining.definition 1 utility) ++
            [closingBrace] :=
      file_java_eq { settings with inlineUtilities := true } project
    have none : inlining.hoisted = [] := rfl
    rw [file, none, List.flatMap_nil, List.append_nil, render, inPlace]
  refine ⟨hoisting.calls_javaOutline project, hoistingFile, inliningFile,
    fun utility depth => ⟨rfl, rfl⟩, ?_, ?_, ?_, ?_⟩
  · constructor
    · intro same
      rw [source, source, hoistingFile, inliningFile, List.append_assoc] at same
      exact hoisting.filterMap_utility?_eq_nil_of_ofLines_eq rfl rfl same
    · intro none
      rw [source, source, hoistingFile, inliningFile, none,
        hoisting.flatMap_linesInPlace_of_no_calls none]
      simp
  -- Whether these languages define utilities for the class is not for the settings to say.
  · rfl
  · rfl
  · rfl

end Generator

end Blockwright
