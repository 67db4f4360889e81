import Blockwright.Proofs.Blocks

/-!
# Places of written elements

Every element that reaches a source file stands somewhere inside blocks, in a list of
elements of a method.  A gap is such a place with nothing in it: what stands before it
and after it, and the blocks around it.  Filling a gap gives the elements back, and
every element that is written fills a gap.

The lines of a filled gap are those of the element that fills it, at the depth of the
gap, between lines that do not depend on the element.  The same holds of a method and of
the whole file, and of the utilities that are used.
-/

namespace Blockwright

namespace Element

/-- An element with other children. -/
def withChildren (children : List Element) (element : Element) : Element :=
  { element with children := some children }

@[simp]
theorem tag?_withChildren (children : List Element) (element : Element) :
    (element.withChildren children).tag? = element.tag? :=
  rfl

@[simp]
theorem fields_withChildren
    (children : List Element) (element : Element) (language : Language) :
    (element.withChildren children).fields language = element.fields language :=
  rfl

@[simp]
theorem childList_withChildren (children : List Element) (element : Element) :
    (element.withChildren children).childList = children :=
  rfl

theorem withChildren_childList
    {element child : Element}
    (member : child ∈ element.childList) :
    element.withChildren element.childList = element := by
  rcases element with ⟨id, type, content, properties, children, position⟩
  cases children with
  | none => exact absurd member List.not_mem_nil
  | some elements => rfl

end Element

/-- The name of a block is its tag. -/
theorem Block.tag?_name
    (kind : Block) :
    ({ type := kind.name } : Element).tag? = some (.block kind) := by
  cases kind <;> rfl

/-- A place in a list of elements, inside blocks. -/
inductive Gap where
  /-- Between elements of the list. -/
  | here (before after : List Element)
  /-- Inside the children of a block of the list. -/
  | inside
      (before : List Element) (block : Element) (kind : Block) (inner : Gap)
      (after : List Element) (isBlock : block.tag? = some (.block kind))

namespace Gap

/-- A gap inside a block that stands alone in its list. -/
def within (kind : Block) (inner : Gap) : Gap :=
  .inside [] { type := kind.name } kind inner [] kind.tag?_name

/-- The elements of a list whose gap is filled. -/
def fill (element : Element) : Gap → List Element
  | .here before after => before ++ element :: after
  | .inside before block _ inner after _ =>
      before ++ block.withChildren (inner.fill element) :: after

/-- How many levels deeper than the list the gap stands. -/
def depth : Gap → Int
  | .here _ _ => 0
  | .inside _ _ kind inner _ _ => kind.childDepth + inner.depth

theorem fill_ne_nil
    (gap : Gap) (element : Element) :
    gap.fill element ≠ [] := by
  cases gap <;> simp [fill]

/-- What is written for an element of a list fills a gap in the list. -/
theorem exists_fill_eq_of_mem_rendered
    {element inner : Element}
    (written : inner ∈ element.rendered)
    (before after : List Element) :
    ∃ gap : Gap, gap.fill inner = before ++ element :: after := by
  induction element using Element.childInduction generalizing before after with
  | step element ih =>
      rcases Element.mem_rendered_iff.1 written with rfl | ⟨kind, tag, child, member, inChild⟩
      · exact ⟨.here before after, rfl⟩
      · obtain ⟨earlier, later, split⟩ := List.append_of_mem member
        obtain ⟨gap, filled⟩ := ih child member inChild earlier later
        refine ⟨.inside before element kind gap after tag, ?_⟩
        rw [fill, filled, ← split, Element.withChildren_childList member]

/-- Every element that is written for a list of elements fills a gap in the list. -/
theorem exists_fill_eq
    {elements : List Element} {element : Element}
    (written : element ∈ elementsRendered elements) :
    ∃ gap : Gap, gap.fill element = elements := by
  rw [elementsRendered_eq_flatMap] at written
  obtain ⟨owner, member, inOwner⟩ := List.mem_flatMap.1 written
  obtain ⟨before, after, rfl⟩ := List.append_of_mem member
  exact exists_fill_eq_of_mem_rendered inOwner before after

/-- Filling a gap writes the element that fills it, between lines that do not depend on it. -/
theorem exists_lines_fill
    (generator : Generator)
    (gap : Gap) (depth : Int) :
    ∃ before after : List Line,
      ∀ element : Element,
        (gap.fill element).flatMap (generator.elementLines depth) =
          before ++ generator.elementLines (depth + gap.depth) element ++ after := by
  induction gap generalizing depth with
  | here before after =>
      refine ⟨before.flatMap (generator.elementLines depth),
        after.flatMap (generator.elementLines depth), fun element => ?_⟩
      simp [fill, Gap.depth]
  | inside before block kind inner after isBlock ih =>
      obtain ⟨opening, ending, written⟩ := ih (depth + kind.childDepth)
      let fields := block.fields generator.language
      refine ⟨before.flatMap (generator.elementLines depth) ++
          (Outline.blockOpening generator.setting fields depth kind ++ opening),
        ending ++ Outline.blockEnding generator.setting fields depth kind ++
          after.flatMap (generator.elementLines depth), fun element => ?_⟩
      have block' : (block.withChildren (inner.fill element)).tag? = some (.block kind) := isBlock
      have some : ¬(generator.language = .python ∧ kind ≠ .doWhile ∧ inner.fill element = []) :=
        fun empty => inner.fill_ne_nil element empty.2.2
      have lines := generator.elementLines_of_block depth block'
      rw [Element.childList_withChildren, if_neg some, written] at lines
      rw [fill, List.flatMap_append, List.flatMap_cons, lines]
      simp [Gap.depth, fields, Int.add_assoc]

/-- Filling a gap uses what the element that fills it uses, between other utilities. -/
theorem exists_uses_fill
    (gap : Gap) :
    ∃ before after : List Utility,
      ∀ element : Element, elementsUses (gap.fill element) = before ++ element.uses ++ after := by
  induction gap with
  | here before after =>
      refine ⟨elementsUses before, elementsUses after, fun element => ?_⟩
      simp [elementsUses_eq_flatMap, fill]
  | inside before block kind inner after isBlock ih =>
      obtain ⟨first, last, used⟩ := ih
      refine ⟨elementsUses before ++ first, last ++ elementsUses after, fun element => ?_⟩
      have inBlock :
          (block.withChildren (inner.fill element)).uses = elementsUses (inner.fill element) := by
        rw [Element.uses_eq, Element.tag?_withChildren, isBlock, elementsUses_eq_flatMap,
          Element.childList_withChildren]
      rw [fill, elementsUses_eq_flatMap, List.flatMap_append, List.flatMap_cons, inBlock, used]
      simp [elementsUses_eq_flatMap]

end Gap

/-! ## Files -/

/-- A place in the methods of a project. -/
structure Site where
  before : List Method
  /-- The method that the place is in; its elements are those around the gap. -/
  method : Method
  gap : Gap
  after : List Method

namespace Site

/-- The method of a place that is filled. -/
def filledMethod (site : Site) (element : Element) : Method :=
  { site.method with elements := site.gap.fill element }

/-- The methods of a place that is filled. -/
def fill (site : Site) (element : Element) : List Method :=
  site.before ++ site.filledMethod element :: site.after

/-- Every element that is written for a project fills a place in it. -/
theorem exists_fill_eq
    {methods : List Method} {method : Method} {element : Element}
    (member : method ∈ methods)
    (written : element ∈ elementsRendered method.elements) :
    ∃ site : Site, site.fill element = methods := by
  obtain ⟨gap, filled⟩ := Gap.exists_fill_eq written
  obtain ⟨before, after, rfl⟩ := List.append_of_mem member
  exact ⟨⟨before, method, gap, after⟩, by rw [fill, filledMethod, filled]⟩

/-- The methods of a filled place use what the element that fills it uses, between others. -/
theorem exists_uses_fill
    (site : Site) :
    ∃ before after : List Utility,
      ∀ element : Element,
        ((site.fill element).flatMap fun method => elementsUses method.elements) =
          before ++ element.uses ++ after := by
  obtain ⟨first, last, used⟩ := site.gap.exists_uses_fill
  refine ⟨(site.before.flatMap fun method => elementsUses method.elements) ++ first,
    last ++ site.after.flatMap fun method => elementsUses method.elements, fun element => ?_⟩
  rw [fill, List.flatMap_append, List.flatMap_cons, filledMethod, used]
  simp

end Site

/-- The depth at which the methods of a project stand in its file. -/
def Language.memberDepth (language : Language) (project : Project) : Int :=
  if language = .csharp ∧ project.namespaceName ≠ "" then 2 else 1

namespace Layout

/-- One of several blocks is written between lines that do not depend on it. -/
theorem exists_separated_eq
    (earlier later : List (List Line)) :
    ∃ before after : List Line,
      ∀ block : List Line,
        separated (earlier ++ block :: later) = before ++ block ++ after := by
  cases earlier with
  | nil => exact ⟨[], later.flatMap ([] :: ·), fun block => separated_cons block later⟩
  | cons first others =>
      refine ⟨first ++ others.flatMap ([] :: ·) ++ [[]], later.flatMap ([] :: ·), fun block => ?_⟩
      rw [List.cons_append, separated_cons]
      simp

end Layout

namespace Generator

variable (generator : Generator)

theorem exists_methodLines_eq
    (site : Site) (depth : Int) :
    ∃ before after : List Line,
      ∀ element : Element,
        generator.methodLines depth (site.filledMethod element) =
          before ++ generator.elementLines (depth + 1 + site.gap.depth) element ++ after := by
  obtain ⟨opening, ending, written⟩ := site.gap.exists_lines_fill generator (depth + 1)
  refine ⟨(generator.methodPreamble site.method).map (generator.indent depth ++ ·) ++
      generator.setting.opening depth (generator.methodHeader site.method) ++ opening,
    ending ++ generator.setting.ending depth none [], fun element => ?_⟩
  have some :
      ¬(generator.language = .python ∧ (site.filledMethod element).elements = []) :=
    fun empty => site.gap.fill_ne_nil element empty.2
  have preamble :
      generator.methodPreamble (site.filledMethod element) = generator.methodPreamble site.method :=
    rfl
  have header :
      generator.methodHeader (site.filledMethod element) = generator.methodHeader site.method :=
    rfl
  rw [methodLines_eq, if_neg some, preamble, header, Site.filledMethod, written]
  simp

theorem exists_members_eq
    (site : Site) (depth : Int) :
    ∃ before after : List Line,
      ∀ element : Element,
        generator.members depth (site.fill element) =
          before ++ generator.elementLines (depth + 1 + site.gap.depth) element ++ after := by
  obtain ⟨opening, ending, written⟩ := generator.exists_methodLines_eq site depth
  obtain ⟨before, after, around⟩ :=
    Layout.exists_separated_eq (site.before.map (generator.methodLines depth))
      (site.after.map (generator.methodLines depth) ++
        generator.hoisted.map (generator.definition depth))
  refine ⟨before ++ opening, ending ++ after, fun element => ?_⟩
  have blocks :
      (site.fill element).map (generator.methodLines depth) ++
          generator.hoisted.map (generator.definition depth) =
        site.before.map (generator.methodLines depth) ++
          generator.methodLines depth (site.filledMethod element) ::
            (site.after.map (generator.methodLines depth) ++
              generator.hoisted.map (generator.definition depth)) := by
    simp [Site.fill]
  rw [members, blocks, around, written]
  simp

/-- The lines of a project's file before the class body. -/
def prologue (project : Project) : List Line :=
  let opened (depth : Int) : List Line :=
    generator.lines depth ("public class " ++ project.className.toList) ++
      generator.lines depth openingBrace
  let headed (keyword : String) : Line :=
    keyword.toList ++ project.className.toList ++ [' ', '{']
  match generator.language with
  | .csharp =>
      csharpPrologue ++ [] ::
        if project.namespaceName = "" then
          opened 0
        else
          namespaceLine project "namespace " "" ++ openingBrace :: opened 1
  | .java =>
      let package := namespaceLine project "package " ";"
      (if package.isEmpty then [] else package ++ [[]]) ++ javaPrologue ++
        [[], headed "public class "]
  | .javascript =>
      let strict : Line := "\"use strict\";"
      namespaceLine project "// Module: " "" ++ [strict, [], headed "class "]
  | .python =>
      let header : Line := "class " ++ project.className.toList ++ ":"
      namespaceLine project "# Module: " "" ++ pythonPrologue ++ [[], [], header]

/-- The lines of a project's file after the class body. -/
def epilogue (project : Project) : List Line :=
  match generator.language with
  | .csharp =>
      if project.namespaceName = "" then
        generator.lines 0 closingBrace
      else
        generator.lines 1 closingBrace ++ [closingBrace]
  | .java => [closingBrace]
  | .javascript => [closingBrace, [], "module.exports = " ++ project.className.toList ++ ";"]
  | .python => []

/-- The lines of the class body of a project's file; in Python it is never empty. -/
def body (project : Project) : List Line :=
  let members := generator.members (generator.language.memberDepth project) project.methods
  if generator.language = .python ∧ members = [] then generator.lines 1 "pass" else members

/-- A file is its class body between lines that depend on the names of the project alone. -/
theorem file_eq
    (project : Project) :
    generator.file project =
      generator.prologue project ++ generator.body project ++ generator.epilogue project := by
  simp only [prologue, body, epilogue, file]
  cases language : generator.language with
  | csharp =>
      by_cases unnamed : project.namespaceName = ""
      · simp [csharpFile, csharpClass, unnamed, Language.memberDepth]
      · simp [csharpFile, csharpClass, unnamed, Language.memberDepth]
  | java => simp [javaFile, outermostClass, Language.memberDepth]
  | javascript => simp [javascriptFile, outermostClass, Language.memberDepth]
  | python => simp [pythonFile, Language.memberDepth]

/-- A file writes the element at a place between lines that do not depend on the element. -/
theorem exists_file_eq
    (project : Project) (site : Site) :
    ∃ before after : List Line,
      ∀ element : Element,
        generator.file { project with methods := site.fill element } =
          before ++
            generator.elementLines
              (generator.language.memberDepth project + 1 + site.gap.depth) element ++
            after := by
  obtain ⟨opening, ending, written⟩ :=
    generator.exists_members_eq site (generator.language.memberDepth project)
  refine ⟨generator.prologue project ++ opening, ending ++ generator.epilogue project,
    fun element => ?_⟩
  let filled : Project := { project with methods := site.fill element }
  have some :
      generator.members (generator.language.memberDepth project) (site.fill element) ≠ [] := by
    rw [written, ne_eq, List.append_eq_nil_iff, List.append_eq_nil_iff]
    exact fun none => generator.elementLines_ne_nil _ element none.1.2
  have body :
      generator.body filled =
        generator.members (generator.language.memberDepth project) (site.fill element) :=
    if_neg fun none => some none.2
  have around :
      generator.prologue filled = generator.prologue project ∧
        generator.epilogue filled = generator.epilogue project :=
    ⟨rfl, rfl⟩
  rw [file_eq, body, around.1, around.2, written]
  simp only [List.append_assoc]

end Generator

end Blockwright
