import Blockwright.Proofs.Gaps
import Blockwright.Proofs.LineBreaks.Texts

/-!
# Unknown tags

An element whose type is outside the vocabulary is written as one comment.  The type is
the only thing about it that reaches the file, and there it cannot leave the line of its
comment: its line boundaries become spaces, whatever their kind.  So two projects that
differ in one such element have files that differ in one line, which is a comment in
both, and they define the same utilities for the class.
-/

namespace Blockwright

namespace Text

/-- A text with one space in the place of each line boundary. -/
def spaced : Text → Text
  | [] => []
  | '\r' :: '\n' :: rest => ' ' :: spaced rest
  | c :: rest => (if isBreak c then ' ' else c) :: spaced rest

/-- A boundary before other text is written as a space. -/
theorem intercalate_lines_cons
    (c : Char) (rest : Text) :
    List.intercalate [' '] ([] :: lines (c :: rest)) = ' ' :: flatten (c :: rest) := by
  have some : lines (c :: rest) ≠ [] := by
    rw [ne_eq, lines_eq_nil_iff]
    exact List.cons_ne_nil c rest
  obtain ⟨first, others, pieces⟩ := List.exists_cons_of_ne_nil some
  rw [flatten, pieces, List.intercalate_cons_cons]
  rfl

/-- A text is flattened by writing spaces for its line boundaries, but not for one at its end. -/
theorem spaced_eq
    (text : Text) :
    spaced text = flatten text ++ if text.getLast?.any isBreak then [' '] else [] := by
  rw [flatten]
  fun_induction lines text with
  | case1 => rfl
  | case2 rest ih =>
      cases rest with
      | nil => rfl
      | cons c more => rw [spaced, ih, ← flatten, intercalate_lines_cons]; simp
  | case3 c rest other isEnd ih =>
      cases rest with
      | nil => simp [spaced, lines, isEnd]
      | cons second more =>
          rw [spaced, ih, ← flatten, intercalate_lines_cons, if_pos isEnd]
          · simp
          · exact other
  | case4 c rest other whole nothing ih =>
      obtain rfl := (lines_eq_nil_iff rest).1 nothing
      simp [spaced, whole]
  | case5 c rest other whole first others pieces ih =>
      have joined :
          List.intercalate [' '] ((c :: first) :: others) =
            c :: List.intercalate [' '] (lines rest) := by
        rw [pieces, List.intercalate_cons_cons_left]
      cases rest with
      | nil => simp [lines] at pieces
      | cons second more =>
          rw [spaced, ih, joined, if_neg whole]
          · simp
          · exact other

end Text

theorem Layout.breakFree_comment
    (language : Language) (width : Nat) (depth : Int) (text : Text) :
    (comment language.commentMark width depth text).all (fun c => !Text.isBreak c) = true := by
  have spaces : (indent width depth).all (fun c => !Text.isBreak c) = true := by
    rw [indent, List.all_eq_true]
    intro c member
    rw [List.eq_of_mem_replicate member]
    rfl
  have mark : language.commentMark.all (fun c => !Text.isBreak c) = true := by
    cases language <;> rfl
  have space : ([' '] : Text).all (fun c => !Text.isBreak c) = true := rfl
  rw [comment, List.all_append, List.all_append, List.all_append, spaces, mark, space,
    Text.breakFree_flatten]
  rfl

/-- A file with an element outside the vocabulary at a place, around the element's comment. -/
theorem Project.exists_source_eq_of_unknown
    (language : Language) (settings : Settings)
    (project : Project) (site : Site) :
    ∃ (before after : List Line) (hoisted : List Utility),
      ∀ element : Element,
        element.tag? = none →
          (Generator.make language settings (site.fill element)).hoisted = hoisted ∧
            { project with methods := site.fill element }.sourceIn language settings =
              Text.ofLines before ++
                Layout.comment language.commentMark settings.indentWidth
                    (language.memberDepth project + 1 + site.gap.depth) element.type.toList ++
                  '\n' :: Text.ofLines after := by
  obtain ⟨usedBefore, usedAfter, used⟩ := site.exists_uses_fill
  let hoisted : List Utility :=
    if language.hoists settings then firstOccurrences (usedBefore ++ usedAfter) else []
  let generator : Generator := ⟨language, settings, hoisted⟩
  obtain ⟨before, after, written⟩ := generator.exists_file_eq project site
  refine ⟨before, after, hoisted, fun element unknown => ?_⟩
  have uses : element.uses = [] := by
    rw [Element.uses_eq, unknown]
  have made : Generator.make language settings (site.fill element) = generator := by
    rw [Generator.make, collectUtilities, used, uses, List.append_nil]
  have own (depth : Int) :
      generator.elementLines depth element = [generator.comment depth element.type.toList] := by
    rw [Generator.elementLines, Element.outline_eq, unknown, Generator.render_singleton]
    rfl
  refine ⟨congrArg Generator.hoisted made, ?_⟩
  rw [sourceIn, made, Generator.source, written, own, Text.ofLines_append, Text.ofLines_append]
  simp [Text.ofLines, Generator.comment, generator]

/--
Every element that is written stands at a place, and at every place an element outside
the vocabulary is confined to one line.  Whatever such element stands there, the lines of
the file before and after its own are the same, and so are the utilities that are defined
for the class.  Its own line is a comment of its type at the depth of the place, in which
every line boundary is a space, but for one at the end, which is dropped; so no boundary
is left in the line.  Nothing but the type of the element matters for the text.
-/
theorem Project.unknownTag_confined
    (language : Language) (settings : Settings)
    (project : Project) :
    (∀ method ∈ project.methods,
      ∀ element ∈ elementsRendered method.elements,
        ∃ site : Site, site.fill element = project.methods) ∧
    ∀ site : Site,
      let filled (element : Element) : Project := { project with methods := site.fill element }
      ∃ (before after : List Line) (hoisted : List Utility),
        ∀ element : Element,
          element.tag? = none →
            let depth := language.memberDepth project + 1 + site.gap.depth
            let flat := Text.flatten element.type.toList
            let line : Line :=
              Layout.indent settings.indentWidth depth ++ language.commentMark ++ [' '] ++ flat
            List.splitOn '\n' ((filled element).sourceIn language settings) =
                before ++ line :: after ∧
              line.all (fun c => !Text.isBreak c) = true ∧
              Text.spaced element.type.toList =
                flat ++ (if element.type.toList.getLast?.any Text.isBreak then [' '] else []) ∧
              (Generator.make language settings (site.fill element)).hoisted = hoisted ∧
              ∀ other : Element,
                other.type = element.type →
                  (filled other).sourceIn language settings =
                    (filled element).sourceIn language settings := by
  refine ⟨fun method member element written => Site.exists_fill_eq member written, ?_⟩
  intro site filled
  obtain ⟨before, after, hoisted, source⟩ :=
    exists_source_eq_of_unknown language settings project site
  refine ⟨before.flatMap (List.splitOn '\n'), List.splitOn '\n' (Text.ofLines after), hoisted, ?_⟩
  intro element unknown depth flat line
  have unbroken : line.all (fun c => !Text.isBreak c) = true :=
    Layout.breakFree_comment language settings.indentWidth depth element.type.toList
  have whole : '\n' ∉ line := by
    intro member
    exact absurd (List.all_eq_true.1 unbroken '\n' member) (by decide)
  refine ⟨?_, unbroken, Text.spaced_eq _, (source element unknown).1, ?_⟩
  · calc
      List.splitOn '\n' ((filled element).sourceIn language settings) =
          List.splitOn '\n' (Text.ofLines before ++ (line ++ '\n' :: Text.ofLines after)) := by
        rw [← List.append_assoc]
        exact congrArg (List.splitOn '\n') (source element unknown).2
      _ = before.flatMap (List.splitOn '\n') ++ line :: List.splitOn '\n' (Text.ofLines after) := by
        rw [Text.splitOn_ofLines_append, List.splitOn_append_cons_self_of_not_mem whole]
  · intro other same
    have alsoUnknown : other.tag? = none := by
      rw [Element.tag?, same]
      exact unknown
    exact (source other alsoUnknown).2.trans (same ▸ (source element unknown).2.symm)

/-- A place in a loop of the only method. -/
def insideLoop : Site where
  before := []
  method := {}
  gap := .within .whileLoop (.here [] [])
  after := []

/-- A tag with three kinds of line boundaries is written on one line, like any other. -/
theorem brokenTag_confined :
    ({ type := "eval\r\nexit()\x0c\u2028" } : Element).tag? = none ∧
      ({ type := "note" } : Element).tag? = none ∧
      ∃ before after : List Line,
        List.splitOn '\n'
              (({ methods := insideLoop.fill { type := "eval\r\nexit()\x0c\u2028" } } :
                Project).sourceIn .python .standard) =
            before ++ "            # eval exit() ".toList :: after ∧
          List.splitOn '\n'
              (({ methods := insideLoop.fill { type := "note" } } :
                Project).sourceIn .python .standard) =
            before ++ "            # note".toList :: after := by
  obtain ⟨before, after, _, confined⟩ :=
    (Project.unknownTag_confined .python .standard {}).2 insideLoop
  exact ⟨rfl, rfl, before, after, (confined _ rfl).1, (confined _ rfl).1⟩

end Blockwright
