import Blockwright.Proofs.Blocks
import Mathlib.Data.List.Basic

/-!
# Python files as trees of suites

A clause of a Python file is an opener, which ends in a colon, and below it the
suite of lines that it governs.  Here a file is put together once more, not as a
list of lines but as a list of parts: a part is a line, or an opener with the
parts of its suite.  `Generator.partsLines_fileParts` says that the lines of
these parts are the lines of the file.  The suites of a file can therefore be
spoken of without reading them back from the indentation of its text.

Only clauses are parts with a suite.  The header of the class, the lines of a
utility and the test that closes a loop are lines like any other.
-/

namespace Blockwright

/-- A part of a Python file: a line, or an opener with the parts of its suite. -/
inductive Part where
  | line (text : Line)
  | suite (opener : Line) (body : List Part)

/-- An opener with the lines of its suite. -/
structure Suite where
  opener : Line
  body : List Line
  deriving DecidableEq, Repr

mutual

/-- The lines of a part. -/
def Part.lines : Part → List Line
  | .line text => [text]
  | .suite opener body => opener :: partsLines body

/-- The lines of parts in order. -/
def partsLines : List Part → List Line
  | [] => []
  | part :: others => part.lines ++ partsLines others

end

mutual

/-- The suites of a part, each before those inside it. -/
def Part.suites : Part → List Suite
  | .line _ => []
  | .suite opener body => ⟨opener, partsLines body⟩ :: partsSuites body

/-- The suites of parts in order. -/
def partsSuites : List Part → List Suite
  | [] => []
  | part :: others => part.suites ++ partsSuites others

end

section Parts

theorem partsLines_eq_flatMap
    (parts : List Part) :
    partsLines parts = parts.flatMap Part.lines := by
  induction parts with
  | nil => rfl
  | cons part others ih =>
      rw [partsLines, ih, List.flatMap_cons]

theorem partsSuites_eq_flatMap
    (parts : List Part) :
    partsSuites parts = parts.flatMap Part.suites := by
  induction parts with
  | nil => rfl
  | cons part others ih =>
      rw [partsSuites, ih, List.flatMap_cons]

@[simp]
theorem partsLines_append
    (first second : List Part) :
    partsLines (first ++ second) = partsLines first ++ partsLines second := by
  simp [partsLines_eq_flatMap]

@[simp]
theorem partsSuites_append
    (first second : List Part) :
    partsSuites (first ++ second) = partsSuites first ++ partsSuites second := by
  simp [partsSuites_eq_flatMap]

theorem partsLines_eq_nil_iff
    (parts : List Part) :
    partsLines parts = [] ↔ parts = [] := by
  rcases parts with _ | ⟨_ | _, _⟩ <;> simp [partsLines, Part.lines]

@[simp]
theorem partsLines_map_line
    (lines : List Line) :
    partsLines (lines.map .line) = lines := by
  induction lines with
  | nil => rfl
  | cons line others ih =>
      exact congrArg (line :: ·) ih

@[simp]
theorem partsSuites_map_line
    (lines : List Line) :
    partsSuites (lines.map .line) = [] := by
  induction lines with
  | nil => rfl
  | cons line others ih => exact ih

theorem partsLines_flatMap
    {α : Type} (items : List α) (write : α → List Part) :
    partsLines (items.flatMap write) =
      items.flatMap fun item => partsLines (write item) := by
  simp only [partsLines_eq_flatMap, List.flatMap_assoc]

theorem partsSuites_flatMap
    {α : Type} (items : List α) (write : α → List Part) :
    partsSuites (items.flatMap write) =
      items.flatMap fun item => partsSuites (write item) := by
  simp only [partsSuites_eq_flatMap, List.flatMap_assoc]

end Parts

/-! ## Blocks -/

namespace Outline

variable (setting : Setting) (fields : Fields) (depth : Int) (body : List Part)

/-- A clause at a depth; an empty body is filled by a line that does nothing. -/
def Setting.clausePart (header : Text) : Part :=
  .suite (setting.indent depth ++ header ++ [':'])
    (if body.isEmpty then [.line (setting.filler (depth + 1))] else body)

/-- The headers of a block's clauses after the first one; these have no bodies. -/
def laterHeaders : Block → List Text
  | .ifElse => [setting.language.headers.otherwise]
  | .ifElseIf => [
      fields.fill setting.language.headers.secondCondition,
      setting.language.headers.otherwise]
  | _ => []

/-- The parts that a block's first clause has for a body. -/
def firstBody : Block → List Part
  | .doWhile =>
      body ++
        (Layout.lines setting.width (depth + 1)
            (fields.fill setting.language.headers.doClosing) ++
          Layout.lines setting.width (depth + 2) "break").map .line
  | .switch => [
      setting.clausePart (depth + 1) body (fields.fill setting.language.headers.case),
      setting.clausePart (depth + 1) [] "case _"]
  | _ => body

/-- The parts of a block whose children have the given parts. -/
def blockParts (kind : Block) : List Part :=
  setting.clausePart depth (firstBody setting fields depth body kind)
      (blockHeader setting fields kind) ::
    (laterHeaders setting fields kind).map (setting.clausePart depth [])

end Outline

mutual

/-- The parts of an element at a depth. -/
def Element.parts (generator : Generator) (depth : Int) : Element → List Part
  | ⟨id, type, content, properties, children, position⟩ =>
      match Tag.ofName? type with
      | some (.block kind) =>
          Outline.blockParts generator.setting ⟨generator.language, type, properties⟩ depth
            (childrenParts generator (depth + kind.childDepth) children) kind
      | _ =>
          (generator.elementLines depth
            ⟨id, type, content, properties, children, position⟩).map .line

/-- The parts of an element's children. -/
def childrenParts (generator : Generator) (depth : Int) : Option (List Element) → List Part
  | none => []
  | some elements => elementsParts generator depth elements

/-- The parts of elements in order. -/
def elementsParts (generator : Generator) (depth : Int) : List Element → List Part
  | [] => []
  | element :: others =>
      element.parts generator depth ++ elementsParts generator depth others

end

theorem elementsParts_eq_flatMap
    (generator : Generator) (depth : Int)
    (elements : List Element) :
    elementsParts generator depth elements =
      elements.flatMap (Element.parts generator depth) := by
  induction elements with
  | nil => rfl
  | cons element others ih =>
      rw [elementsParts, ih, List.flatMap_cons]

theorem childrenParts_eq_flatMap
    (generator : Generator) (depth : Int)
    (element : Element) :
    childrenParts generator depth element.children =
      element.childList.flatMap (Element.parts generator depth) := by
  cases given : element.children with
  | none => simp [childrenParts, Element.childList, given]
  | some elements =>
      simp [childrenParts, Element.childList, given, elementsParts_eq_flatMap]

/-- The parts of an element, by its tag. -/
theorem Element.parts_eq
    (generator : Generator) (depth : Int)
    (element : Element) :
    element.parts generator depth =
      match element.tag? with
      | some (.block kind) =>
          Outline.blockParts generator.setting (element.fields generator.language) depth
            (element.childList.flatMap
              (Element.parts generator (depth + kind.childDepth))) kind
      | _ => (generator.elementLines depth element).map .line := by
  simp only [← childrenParts_eq_flatMap]
  rcases element with ⟨id, type, content, properties, children, position⟩
  rw [Element.parts]
  rfl

/-! ## Lines of the parts -/

namespace Outline

variable {setting : Setting}

theorem Setting.partsLines_clausePart
    (style : setting.language.style = .indentation)
    (depth : Int) (body : List Part) (header : Text) (others : List Part) :
    partsLines (setting.clausePart depth body header :: others) =
      setting.opening depth header ++
        (if body.isEmpty then [setting.filler (depth + 1)] else partsLines body) ++
        partsLines others := by
  have filler (line : Line) : partsLines [.line line] = [line] := rfl
  rw [partsLines, clausePart, Part.lines]
  cases given : body.isEmpty <;> simp [opening, style, filler]

theorem Setting.partsLines_map_clausePart
    (style : setting.language.style = .indentation)
    (depth : Int) (headers : List Text) :
    partsLines (headers.map (setting.clausePart depth [])) =
      setting.ending depth none headers := by
  induction headers with
  | nil => simp [ending, style, partsLines]
  | cons header others ih =>
      rw [List.map_cons, partsLines_clausePart style, ih]
      simp [opening, ending, style]

/-- The lines of a block's parts are those of its children between the lines of the block. -/
theorem partsLines_blockParts
    (style : setting.language.style = .indentation)
    (fields : Fields) (depth : Int)
    (body : List Part) (kind : Block) :
    partsLines (blockParts setting fields depth body kind) =
      blockOpening setting fields depth kind ++
        (if kind ≠ .doWhile ∧ body.isEmpty then
          [setting.filler (depth + kind.childDepth)]
        else
          partsLines body) ++
        blockEnding setting fields depth kind := by
  have later := Setting.partsLines_map_clausePart style depth (laterHeaders setting fields kind)
  rw [blockParts, Setting.partsLines_clausePart style, later]
  cases kind with
  | counting | forEach | whileLoop | conditional | ifElse | ifElseIf =>
      simp [blockOpening, firstBody, blockEnding, laterHeaders, Block.childDepth]
  | doWhile =>
      have nonempty (depth : Int) (text : Text) :
          Layout.lines setting.width depth text ≠ [] := by
        simp [Layout.lines]
      simp [blockOpening, firstBody, blockEnding, laterHeaders, style, nonempty,
        Setting.ending]
  | switch =>
      have deeper : depth + 1 + 1 = depth + 2 := by omega
      have inner :=
        Setting.partsLines_clausePart style (depth + 1) body
          (fields.fill setting.language.headers.case)
          [setting.clausePart (depth + 1) [] "case _"]
      have otherCase := Setting.partsLines_map_clausePart style (depth + 1) ["case _"]
      rw [List.map_cons, List.map_nil] at otherCase
      rw [otherCase, deeper] at inner
      have some : (firstBody setting fields depth body .switch).isEmpty = false := rfl
      rw [some, firstBody, inner]
      simp [blockOpening, caseOpening, blockEnding, laterHeaders, Block.childDepth, style,
        Setting.ending]

end Outline

/-- Elements have no parts only if there are none. -/
theorem flatMap_parts_eq_nil_iff
    (generator : Generator) (depth : Int)
    (elements : List Element) :
    elements.flatMap (Element.parts generator depth) = [] ↔ elements = [] := by
  constructor
  · intro nothing
    cases elements with
    | nil => rfl
    | cons element others =>
        have first := (List.append_eq_nil_iff.1 nothing).1
        rw [Element.parts_eq] at first
        split at first
        · simp [Outline.blockParts] at first
        · exact absurd (List.map_eq_nil_iff.1 first) (generator.elementLines_ne_nil depth element)
  · rintro rfl
    rfl

/-- The lines of an element's parts are the lines of the element. -/
theorem Element.partsLines_parts
    {generator : Generator}
    (python : generator.language = .python)
    (element : Element) (depth : Int) :
    partsLines (element.parts generator depth) = generator.elementLines depth element := by
  have style : generator.setting.language.style = .indentation :=
    (Language.style_eq_indentation_iff _).2 python
  induction element using Element.childInduction generalizing depth with
  | step element ih =>
      rw [parts_eq]
      rcases tag : element.tag? with _ | (kind | kind | kind)
      · exact partsLines_map_line _
      · exact partsLines_map_line _
      · have children :
            partsLines
                (element.childList.flatMap
                  (Element.parts generator (depth + kind.childDepth))) =
              element.childList.flatMap
                (generator.elementLines (depth + kind.childDepth)) := by
          rw [partsLines_flatMap]
          apply List.flatMap_congr
          intro child member
          exact ih child member (depth + kind.childDepth)
        have around :=
          Outline.partsLines_blockParts style (element.fields generator.language) depth
            (element.childList.flatMap
              (Element.parts generator (depth + kind.childDepth))) kind
        simp only [List.isEmpty_iff, flatMap_parts_eq_nil_iff, children] at around
        simp only [around]
        rw [generator.elementLines_of_block depth tag, generator.line_pass]
        simp [python]
      · exact partsLines_map_line _

/-! ## Methods and files -/

namespace Generator

variable (generator : Generator)

/-- The parts of a method at a depth. -/
def methodParts (depth : Int) (method : Method) : List Part :=
  ((generator.methodPreamble method).map (generator.indent depth ++ ·)).map .line ++
    [generator.setting.clausePart depth (elementsParts generator (depth + 1) method.elements)
      (generator.methodHeader method)]

/-- The parts of the class body. -/
def membersParts (depth : Int) (methods : List Method) : List Part :=
  [.line []].intercalate (methods.map (generator.methodParts depth))

/-- The parts of a file. -/
def fileParts (project : Project) : List Part :=
  let members := generator.membersParts 1 project.methods
  let header : Line := "class " ++ project.className.toList ++ ":"
  (namespaceLine project "# Module: " "" ++ pythonPrologue ++ [[], [], header]).map .line ++
    if members.isEmpty then (generator.lines 1 "pass").map .line else members

variable {generator}

theorem partsLines_elementsParts
    (python : generator.language = .python)
    (depth : Int) (elements : List Element) :
    partsLines (elementsParts generator depth elements) =
      elements.flatMap (generator.elementLines depth) := by
  rw [elementsParts_eq_flatMap, partsLines_flatMap]
  apply List.flatMap_congr
  intro element _
  exact element.partsLines_parts python depth

theorem partsLines_methodParts
    (python : generator.language = .python)
    (depth : Int) (method : Method) :
    partsLines (generator.methodParts depth method) = generator.methodLines depth method := by
  have style : generator.setting.language.style = .indentation :=
    (Language.style_eq_indentation_iff _).2 python
  rw [methodParts, partsLines_append, partsLines_map_line,
    Outline.Setting.partsLines_clausePart style, partsLines_elementsParts python,
    elementsParts_eq_flatMap, methodLines_eq, line_pass]
  simp only [List.isEmpty_iff, flatMap_parts_eq_nil_iff]
  simp [python, partsLines, Outline.Setting.ending, style]

theorem partsLines_intercalate
    (separator : List Part) (blocks : List (List Part)) :
    partsLines (separator.intercalate blocks) =
      (partsLines separator).intercalate (blocks.map partsLines) := by
  induction blocks with
  | nil => rfl
  | cons block others ih =>
      cases others with
      | nil => simp
      | cons second more =>
          simp only [List.map_cons] at ih ⊢
          rw [List.intercalate_cons_cons, List.intercalate_cons_cons, partsLines_append,
            partsLines_append, ih]

theorem partsLines_membersParts
    (python : generator.language = .python)
    (none : generator.hoisted = [])
    (depth : Int) (methods : List Method) :
    partsLines (generator.membersParts depth methods) = generator.members depth methods := by
  have blocks :
      (methods.map (generator.methodParts depth)).map partsLines =
        methods.map (generator.methodLines depth) := by
    rw [List.map_map]
    apply List.map_congr_left
    intro method _
    exact partsLines_methodParts python depth method
  rw [membersParts, partsLines_intercalate, blocks, members, Layout.separated_eq_intercalate,
    none, List.map_nil, List.append_nil]
  rfl

/-- The lines of a file's parts are the lines of the file. -/
theorem partsLines_fileParts
    (python : generator.language = .python)
    (none : generator.hoisted = [])
    (project : Project) :
    partsLines (generator.fileParts project) = generator.file project := by
  have members := partsLines_membersParts python none 1 project.methods
  simp only [fileParts, file, python, pythonFile, partsLines_append, partsLines_map_line,
    ← members, List.isEmpty_iff, partsLines_eq_nil_iff]
  split <;> simp

end Generator

end Blockwright
