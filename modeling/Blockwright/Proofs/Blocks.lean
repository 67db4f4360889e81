import Blockwright.Proofs.Elements
import Blockwright.Source.Generator

/-!
# Blocks around their children

Whatever the style of a language, the outline of a block is a run of finished
lines, the outlines of the block's children, and another run of finished lines.
`Outline.blockOpening` and `Outline.blockEnding` give the two runs; neither
mentions the children.  Only an indented clause looks at its body at all: when
it is empty, a line that does nothing is written in its place.

The main statement carries this over from outlines to the lines of a source
file: rendering is compositional.
-/

namespace Blockwright

namespace Layout

/-- Lines set apart by one empty line are those lines with an empty line between neighbours. -/
theorem separated_eq_intercalate
    (blocks : List (List Line)) :
    separated blocks = [[]].intercalate blocks := by
  fun_induction separated blocks with
  | case1 => rfl
  | case2 block => simp
  | case3 block others some ih =>
      rw [List.intercalate_cons_of_ne_nil some, ih, List.append_assoc]
      rfl

/-- Blocks set apart: the first, and the others with an empty line before each. -/
theorem separated_cons
    (block : List Line) (others : List (List Line)) :
    separated (block :: others) = block ++ others.flatMap ([] :: ·) := by
  induction others generalizing block with
  | nil => simp [separated]
  | cons second more ih => rw [separated, ih, List.flatMap_cons] <;> simp

end Layout

namespace Outline.Setting

variable (setting : Setting)

/-- The line that stands for an empty body at a depth. -/
def filler (depth : Int) : Line :=
  Layout.line setting.width depth "pass"

/-- The lines that open the first of several clauses. -/
def opening (depth : Int) (header : Text) : List Line :=
  match setting.language.style with
  | .braces .ownLine => [setting.indent depth ++ header, setting.indent depth ++ ['{']]
  | .braces .headerLine => [setting.indent depth ++ header ++ [' ', '{']]
  | .indentation => [setting.indent depth ++ header ++ [':']]

/-- The lines after the body of the first clause when the later clauses have no bodies. -/
def ending (depth : Int) (trailer : Option Text) : List Text → List Line
  | [] =>
      match setting.language.style with
      | .braces _ => [Layout.closing (setting.indent depth) trailer]
      | .indentation => []
  | header :: others =>
      (match setting.language.style with
      | .braces .ownLine => [
          setting.indent depth ++ ['}'],
          setting.indent depth ++ header,
          setting.indent depth ++ ['{']]
      | .braces .headerLine => [setting.indent depth ++ ['}', ' '] ++ header ++ [' ', '{']]
      | .indentation => [setting.indent depth ++ header ++ [':'], setting.filler (depth + 1)]) ++
        ending depth trailer others

/-- The body of a clause as it is written at a depth. -/
def filled (depth : Int) (body : List Entry) : List Entry :=
  if setting.language.style = .indentation ∧ body = [] then
    [.line (setting.filler depth)]
  else
    body

theorem lines_ne_nil
    (depth : Int) (text : Text) :
    setting.lines depth text ≠ [] := by
  simp [lines, Layout.lines]

theorem opening_ne_nil
    (depth : Int) (header : Text) :
    setting.opening depth header ≠ [] := by
  simp only [opening]
  split <;> simp

theorem filled_of_ne_nil
    (depth : Int) (body : List Entry)
    (written : body ≠ []) :
    setting.filled depth body = body := by
  simp [filled, written]

theorem ownLineClauses_eq
    (style : setting.language.style = .braces .ownLine)
    (depth : Int) (trailer : Option Text)
    (header : Text) (body : List Entry) (others : List Text) :
    Layout.ownLineClauses .line (setting.indent depth) trailer
        (⟨header, body⟩ :: others.map (⟨·, []⟩)) =
      (setting.opening depth header).map .line ++ body ++
        (setting.ending depth trailer others).map .line := by
  induction others generalizing header body with
  | nil => simp [Layout.ownLineClauses, opening, ending, style]
  | cons second others ih =>
      rw [List.map_cons, Layout.ownLineClauses, ih second []]
      · simp [opening, ending, style]
      · simp

theorem headerLineRest_eq
    (style : setting.language.style = .braces .headerLine)
    (depth : Int) (trailer : Option Text) (others : List Text) :
    Layout.headerLineRest (α := Entry) .line (setting.indent depth) trailer
        (others.map (⟨·, []⟩)) =
      (setting.ending depth trailer others).map .line := by
  induction others with
  | nil => simp [Layout.headerLineRest, ending, style]
  | cons second others ih =>
      rw [List.map_cons, Layout.headerLineRest, ih]
      simp [ending, style]

theorem indentedClauses_cons
    (depth : Int) (clause : Layout.Clause Entry) (others : List (Layout.Clause Entry)) :
    Layout.indentedClauses .line (setting.indent depth)
        (setting.filler (depth + 1)) (clause :: others) =
      .line (setting.indent depth ++ clause.header ++ [':']) ::
        ((if clause.body.isEmpty then [.line (setting.filler (depth + 1))] else clause.body) ++
          Layout.indentedClauses .line (setting.indent depth)
            (setting.filler (depth + 1)) others) :=
  rfl

theorem indentedClauses_eq
    (style : setting.language.style = .indentation)
    (depth : Int) (trailer : Option Text) (others : List Text) :
    Layout.indentedClauses (α := Entry) .line (setting.indent depth)
        (setting.filler (depth + 1)) (others.map (⟨·, []⟩)) =
      (setting.ending depth trailer others).map .line := by
  induction others with
  | nil => simp [Layout.indentedClauses, ending, style]
  | cons second others ih =>
      rw [List.map_cons, indentedClauses_cons, ih]
      simp [ending, style]

/-- Clauses whose first one alone has a body, as lines around that body. -/
theorem clauses_eq
    (depth : Int) (trailer : Option Text)
    (header : Text) (body : List Entry) (others : List Text) :
    setting.clauses depth trailer (⟨header, body⟩ :: others.map (⟨·, []⟩)) =
      (setting.opening depth header).map .line ++
        setting.filled (depth + 1) body ++
        (setting.ending depth trailer others).map .line := by
  cases style : setting.language.style with
  | braces kind =>
      simp only [clauses, filled, style, Layout.bracedClauses]
      cases kind with
      | ownLine => exact setting.ownLineClauses_eq style depth trailer header body others
      | headerLine =>
          have rest := setting.headerLineRest_eq style depth trailer others
          simp [Layout.headerLineClauses, opening, style, rest]
  | indentation =>
      have rest := setting.indentedClauses_eq style depth trailer others
      have unfolded :
          setting.clauses depth trailer (⟨header, body⟩ :: others.map (⟨·, []⟩)) =
            Layout.indentedClauses .line (setting.indent depth) (setting.filler (depth + 1))
              (⟨header, body⟩ :: others.map (⟨·, []⟩)) := by
        simp only [clauses, style, filler]
      rw [unfolded, indentedClauses_cons, rest]
      simp [opening, filled, style]

end Outline.Setting

namespace Outline

variable (setting : Setting) (fields : Fields) (depth : Int)

/-- The header of a block's first clause. -/
def blockHeader : Block → Text
  | .counting => setting.language.headers.counting.fill (fields.slotWith fields.loopTexts)
  | .forEach => fields.fill setting.language.headers.forEach
  | .whileLoop => fields.fill setting.language.headers.whileLoop
  | .doWhile => setting.language.headers.doOpening
  | .conditional => fields.fill setting.language.headers.conditional
  | .ifElse => fields.fill setting.language.headers.conditional
  | .ifElseIf => fields.fill setting.language.headers.firstCondition
  | .switch => fields.fill setting.language.headers.switch

/-- The lines that open the one case of a switch. -/
def caseOpening : List Line :=
  let case := fields.fill setting.language.headers.case
  match setting.language.style with
  | .braces _ => Layout.lines setting.width (depth + 1) case
  | .indentation => setting.opening (depth + 1) case

/-- The lines of a block before its children. -/
def blockOpening (kind : Block) : List Line :=
  setting.opening depth (blockHeader setting fields kind) ++
    match kind with
    | .switch => caseOpening setting fields depth
    | _ => []

/-- The lines of a block after its children. -/
def blockEnding : Block → List Line
  | .doWhile =>
      let condition := fields.fill setting.language.headers.doClosing
      match setting.language.style with
      | .braces _ => setting.ending depth (some condition) []
      | .indentation =>
          Layout.lines setting.width (depth + 1) condition ++
            Layout.lines setting.width (depth + 2) "break"
  | .ifElse => setting.ending depth none [setting.language.headers.otherwise]
  | .ifElseIf =>
      setting.ending depth none
        [fields.fill setting.language.headers.secondCondition,
          setting.language.headers.otherwise]
  | .switch =>
      match setting.language.style with
      | .braces _ =>
          Layout.lines setting.width (depth + 2) "break;" ++
            Layout.lines setting.width (depth + 1) "default:" ++
            Layout.lines setting.width (depth + 2) "break;" ++
            setting.ending depth none []
      | .indentation => setting.ending (depth + 1) none ["case _"]
  | _ => setting.ending depth none []

/-- The entries of a block's children as they are written; a loop that tests last is never empty. -/
def blockBody (body : List Entry) (kind : Block) : List Entry :=
  if kind = .doWhile then body else setting.filled (depth + kind.childDepth) body

theorem doWhile_eq
    (body : List Entry) :
    doWhile setting fields depth body =
      (blockOpening setting fields depth .doWhile).map .line ++ body ++
        (blockEnding setting fields depth .doWhile).map .line := by
  cases style : setting.language.style with
  | braces kind =>
      have around :=
        setting.clauses_eq depth (some (fields.fill setting.language.headers.doClosing))
          setting.language.headers.doOpening body []
      simp only [List.map_nil] at around
      simp [doWhile, style, around, blockOpening, blockHeader, blockEnding, Setting.filled]
  | indentation =>
      have around :=
        setting.clauses_eq depth none setting.language.headers.doOpening
          (body ++
            setting.lines (depth + 1) (fields.fill setting.language.headers.doClosing) ++
            setting.lines (depth + 2) "break")
          []
      rw [setting.filled_of_ne_nil _ _ (by simp [setting.lines_ne_nil])] at around
      simp only [List.map_nil] at around
      simp only [doWhile, style, around]
      simp [blockOpening, blockHeader, blockEnding, Setting.ending, Setting.lines, style]

theorem switch_eq
    (body : List Entry) :
    switch setting fields depth body =
      (blockOpening setting fields depth .switch).map .line ++
        setting.filled (depth + 2) body ++
        (blockEnding setting fields depth .switch).map .line := by
  cases style : setting.language.style with
  | braces kind =>
      have around (inner : List Entry) :=
        setting.clauses_eq depth none (fields.fill setting.language.headers.switch) inner []
      simp only [List.map_nil] at around
      simp [switch, style, around, blockOpening, blockHeader, caseOpening, blockEnding,
        Setting.filled, Setting.lines]
  | indentation =>
      have cases :=
        setting.clauses_eq (depth + 1) none (fields.fill setting.language.headers.case) body
          ["case _"]
      have around (inner : List Entry) :=
        setting.clauses_eq depth none (fields.fill setting.language.headers.switch) inner []
      simp only [List.map_cons, List.map_nil] at cases around
      have deeper : depth + 1 + 1 = depth + 2 := by omega
      rw [deeper] at cases
      have written :
          (setting.opening (depth + 1) (fields.fill setting.language.headers.case)).map
              Entry.line ++
            setting.filled (depth + 2) body ++
            (setting.ending (depth + 1) none ["case _"]).map Entry.line ≠ [] := by
        simp [Setting.opening, style]
      simp only [switch, style, cases, around, setting.filled_of_ne_nil _ _ written]
      simp [blockOpening, blockHeader, caseOpening, blockEnding, Setting.ending, style]

/-- A block is its children between two runs of lines that do not depend on them. -/
theorem block_eq
    (body : List Entry) (kind : Block) :
    block setting fields depth body kind =
      (blockOpening setting fields depth kind).map .line ++
        blockBody setting depth body kind ++
        (blockEnding setting fields depth kind).map .line := by
  have one (header : Text) := setting.clauses_eq depth none header body []
  have two (header second : Text) := setting.clauses_eq depth none header body [second]
  have three (header second third : Text) :=
    setting.clauses_eq depth none header body [second, third]
  simp only [List.map_cons, List.map_nil] at one two three
  cases kind with
  | counting | forEach | whileLoop | conditional =>
      simp [block, one, blockOpening, blockHeader, blockBody, blockEnding, Block.childDepth]
  | doWhile => exact doWhile_eq setting fields depth body
  | ifElse =>
      simp [block, two, blockOpening, blockHeader, blockBody, blockEnding, Block.childDepth]
  | ifElseIf =>
      simp [block, three, blockOpening, blockHeader, blockBody, blockEnding, Block.childDepth]
  | switch => exact switch_eq setting fields depth body

end Outline

theorem Language.style_eq_indentation_iff
    (language : Language) :
    language.style = .indentation ↔ language = .python := by
  cases language <;> decide

theorem Language.exists_braces
    {language : Language}
    (braces : language ≠ .python) :
    ∃ kind, language.style = .braces kind := by
  cases language with
  | csharp => exact ⟨.ownLine, rfl⟩
  | java => exact ⟨.headerLine, rfl⟩
  | javascript => exact ⟨.headerLine, rfl⟩
  | python => exact absurd rfl braces

/-- No element is written as nothing. -/
theorem Element.outline_ne_nil
    (setting : Outline.Setting) (depth : Int)
    (element : Element) :
    element.outline setting depth ≠ [] := by
  rw [outline_eq]
  rcases element.tag? with _ | (kind | kind | kind)
  · simp
  · exact setting.lines_ne_nil depth _
  · simp [Outline.block_eq, Outline.blockOpening, setting.opening_ne_nil]
  · simp

theorem flatMap_outline_eq_nil_iff
    (setting : Outline.Setting) (depth : Int)
    (elements : List Element) :
    elements.flatMap (Element.outline setting depth) = [] ↔ elements = [] := by
  constructor
  · intro nothing
    cases elements with
    | nil => rfl
    | cons element others =>
        have first := (List.append_eq_nil_iff.1 nothing).1
        exact absurd first (element.outline_ne_nil setting depth)
  · rintro rfl
    rfl

namespace Generator

variable (generator : Generator)

@[simp]
theorem render_nil : generator.render [] = [] :=
  rfl

@[simp]
theorem render_singleton
    (entry : Entry) :
    generator.render [entry] = generator.entryLines entry :=
  List.flatMap_singleton ..

@[simp]
theorem render_append
    (first second : List Entry) :
    generator.render (first ++ second) =
      generator.render first ++ generator.render second :=
  List.flatMap_append

@[simp]
theorem render_map_line
    (lines : List Line) :
    generator.render (lines.map .line) = lines := by
  induction lines with
  | nil => rfl
  | cons line others ih =>
      exact congrArg (line :: ·) ih

theorem render_flatMap_outline
    (depth : Int) (elements : List Element) :
    generator.render (elements.flatMap (Element.outline generator.setting depth)) =
      elements.flatMap (generator.elementLines depth) :=
  List.flatMap_assoc

theorem entryLines_ne_nil
    (entry : Entry) :
    generator.entryLines entry ≠ [] := by
  cases entry with
  | line text => simp [entryLines]
  | call utility depth =>
      have defined : generator.definition depth utility ≠ [] := by
        simp [definition, lines, Layout.lines]
      rw [entryLines]
      split
      · simp
      · exact defined
  | unknown type depth => simp [entryLines]

theorem elementLines_ne_nil
    (depth : Int)
    (element : Element) :
    generator.elementLines depth element ≠ [] := by
  intro none
  rcases List.exists_cons_of_ne_nil (element.outline_ne_nil generator.setting depth) with
    ⟨entry, others, outline⟩
  rw [elementLines, outline] at none
  exact generator.entryLines_ne_nil entry (List.append_eq_nil_iff.1 none).1

theorem line_pass
    (depth : Int) :
    generator.setting.filler depth = generator.indent depth ++ "pass" := by
  simp [Outline.Setting.filler, Layout.line, Layout.leadingSpaces, indent, setting]

/-- The lines of a clause's elements as they are written. -/
theorem render_filled
    (depth : Int) (elements : List Element) :
    generator.render
        (generator.setting.filled depth
          (elements.flatMap (Element.outline generator.setting depth))) =
      if generator.language = .python ∧ elements = [] then
        [generator.indent depth ++ "pass"]
      else
        elements.flatMap (generator.elementLines depth) := by
  by_cases indented : generator.language = .python ∧ elements = []
  · rcases indented with ⟨python, rfl⟩
    have style : generator.setting.language.style = .indentation :=
      (Language.style_eq_indentation_iff _).2 python
    have filler :
        generator.render [.line (generator.setting.filler depth)] =
          [generator.indent depth ++ "pass"] := by
      rw [← line_pass]
      exact generator.render_map_line [_]
    simp [Outline.Setting.filled, python, style, filler]
  · have written :
        ¬(generator.setting.language.style = .indentation ∧
          elements.flatMap (Element.outline generator.setting depth) = []) := by
      rwa [Language.style_eq_indentation_iff, flatMap_outline_eq_nil_iff]
    rw [Outline.Setting.filled, if_neg written, render_flatMap_outline, if_neg indented]

/-- The lines of a block's children as they are written. -/
theorem render_blockBody
    (depth : Int) (children : List Element) (kind : Block) :
    generator.render
        (Outline.blockBody generator.setting depth
          (children.flatMap
            (Element.outline generator.setting (depth + kind.childDepth))) kind) =
      if generator.language = .python ∧ kind ≠ .doWhile ∧ children = [] then
        [generator.indent (depth + kind.childDepth) ++ "pass"]
      else
        children.flatMap (generator.elementLines (depth + kind.childDepth)) := by
  by_cases last : kind = .doWhile
  · simp [Outline.blockBody, last, render_flatMap_outline]
  · rw [Outline.blockBody, if_neg last, render_filled]
    simp [last]

/-- The lines of a block, around those of its children. -/
theorem elementLines_of_block
    (depth : Int)
    {element : Element} {kind : Block}
    (block : element.tag? = some (.block kind)) :
    generator.elementLines depth element =
      Outline.blockOpening generator.setting (element.fields generator.language) depth kind ++
        (if generator.language = .python ∧ kind ≠ .doWhile ∧ element.childList = [] then
          [generator.indent (depth + kind.childDepth) ++ "pass"]
        else
          element.childList.flatMap
            (generator.elementLines (depth + kind.childDepth))) ++
        Outline.blockEnding generator.setting (element.fields generator.language) depth kind := by
  have outline := element.outline_eq generator.setting depth
  simp only [block, Outline.block_eq] at outline
  rw [elementLines, outline, render_append, render_append, render_map_line, render_map_line,
    render_blockBody]
  rfl

/-- The outline of a method: finished lines around the outlines of its elements. -/
theorem methodOutline_eq
    (depth : Int) (method : Method) :
    generator.methodOutline depth method =
      ((generator.methodPreamble method).map (generator.indent depth ++ ·) ++
          generator.setting.opening depth (generator.methodHeader method)).map .line ++
        generator.setting.filled (depth + 1)
          (method.elements.flatMap (Element.outline generator.setting (depth + 1))) ++
        (generator.setting.ending depth none []).map .line := by
  have clause :=
    generator.setting.clauses_eq depth none (generator.methodHeader method)
      (elementsOutline generator.setting (depth + 1) method.elements) []
  rw [elementsOutline_eq_flatMap, List.map_nil] at clause
  rw [methodOutline, elementsOutline_eq_flatMap, clause]
  simp [Function.comp_def]

/-- The lines of a method, around those of its elements. -/
theorem methodLines_eq
    (depth : Int) (method : Method) :
    generator.methodLines depth method =
      ((generator.methodPreamble method).map (generator.indent depth ++ ·) ++
          generator.setting.opening depth (generator.methodHeader method)) ++
        (if generator.language = .python ∧ method.elements = [] then
          [generator.indent (depth + 1) ++ "pass"]
        else
          method.elements.flatMap (generator.elementLines (depth + 1))) ++
        generator.setting.ending depth none [] := by
  rw [methodLines, methodOutline_eq, render_append, render_append, render_map_line,
    render_map_line, render_filled]

theorem methodLines_ne_nil
    (depth : Int) (method : Method) :
    generator.methodLines depth method ≠ [] := by
  simp [methodLines_eq, generator.setting.opening_ne_nil]

/-- The lines of an element that is no block do not depend on what it holds. -/
theorem elementLines_of_not_block
    (depth : Int)
    {element : Element}
    (leaf : element.block? = none)
    (other : Option (List Element)) :
    generator.elementLines depth { element with children := other } =
      generator.elementLines depth element := by
  have outline := element.outline_eq generator.setting depth
  have changed := { element with children := other }.outline_eq generator.setting depth
  have sameTag : { element with children := other }.tag? = element.tag? := rfl
  rw [elementLines, elementLines, outline, changed, sameTag]
  rcases tag : element.tag? with _ | (kind | kind | kind)
  · rfl
  · rfl
  · have block := (element.block?_eq_some_iff kind).2 tag
    simp [leaf] at block
  · rfl

/--
Rendering is compositional: the lines of a block are the lines of its children in
order between two runs of lines that only the block's tag, its properties and its
depth determine.  Where Python leaves a block without children, one line that does
nothing stands in their place.  The lines of any other element do not depend on
what the element holds.
-/
theorem elementLines_compositional
    (depth : Int)
    (id type content : String)
    (properties : Properties)
    (children : Option (List Element))
    (position : Option Position) :
    let element : Element := ⟨id, type, content, properties, children, position⟩
    let fields : Fields := ⟨generator.language, type, properties⟩
    match Tag.ofName? type with
    | some (.block kind) =>
        generator.elementLines depth element =
          Outline.blockOpening generator.setting fields depth kind ++
            (if generator.language = .python ∧ kind ≠ .doWhile ∧ children.getD [] = [] then
              [generator.indent (depth + kind.childDepth) ++ "pass"]
            else
              (children.getD []).flatMap
                (generator.elementLines (depth + kind.childDepth))) ++
            Outline.blockEnding generator.setting fields depth kind
    | _ =>
        ∀ other : Option (List Element),
          generator.elementLines depth { element with children := other } =
            generator.elementLines depth element := by
  intro element fields
  have leaf (notBlock : element.block? = none) (other : Option (List Element)) :=
    generator.elementLines_of_not_block depth notBlock other
  rcases tag : Tag.ofName? type with _ | (kind | kind | kind)
  · exact leaf (by simp [Element.block?, Element.tag?, element, tag])
  · exact leaf (by simp [Element.block?, Element.tag?, element, tag, Tag.block?])
  · have block : element.tag? = some (.block kind) := tag
    exact generator.elementLines_of_block depth block
  · exact leaf (by simp [Element.block?, Element.tag?, element, tag, Tag.block?])

end Generator

end Blockwright
