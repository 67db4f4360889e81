import Blockwright.Proofs.Indentation.Texts
import Blockwright.Proofs.LineBreaks.Files

/-!
# Indentation of Python files

A Python file is put together from parts, and every part is stepped at the margin
of its depth: a clause is an opener above a body one level deeper, and whatever
stands below it begins at the clause's own margin.  So the whole file is indented
with discipline (`Project.disciplined_sourceIn`), if no text that it contributes
without quotes breaks a line, begins with a space or ends as an opener does.

The type of an element outside the vocabulary is flattened to one line before it
is written, and what matters is how the flattened type ends.  A line break of
another kind at the end of a type is dropped, so that a type which ends neither in
a colon nor in a parenthesis may still be written as an opener.
-/

namespace Blockwright

open Layout (Body Stepped margin)

/-! ## Blocks -/

theorem Layout.body_pass
    {width : Nat} {depth : Int}
    (positive : 0 < width)
    (within : 0 ≤ depth) :
    Body width (margin width depth) (lines width depth "pass") := by
  have pass : Body nesting 0 (List.splitOn '\n' "pass") := by decide
  exact pass.moved positive within

namespace Outline

variable {setting : Setting} {depth : Int}

/-- A clause is an opener above its body, or above the line that stands for an empty one. -/
theorem Setting.body_clausePart
    (positive : 0 < setting.width)
    (within : 0 ≤ depth)
    {header : Text}
    (unbroken : '\n' ∉ header)
    (flush : header.head? ≠ some ' ')
    {body : List Part}
    (inside :
      body ≠ [] →
        Body setting.width (margin setting.width (depth + 1)) (partsLines body)) :
    Body setting.width (margin setting.width depth)
      (partsLines [setting.clausePart depth body header]) := by
  have below :
      Body setting.width (margin setting.width (depth + 1))
        (partsLines
          (if body.isEmpty then [.line (setting.filler (depth + 1))] else body)) := by
    split
    · exact Layout.body_pass positive (Int.add_nonneg within Int.one_nonneg)
    · next some => exact inside (by simpa using some)
  have opens : Text.IsOpener (header ++ [':']) := by
    rw [Layout.isOpener_append (List.cons_ne_nil _ _)]
    decide
  have single :
      partsLines [setting.clausePart depth body header] =
        (setting.indent depth ++ (header ++ [':'])) ::
          partsLines
            (if body.isEmpty then [.line (setting.filler (depth + 1))] else body) := by
    rw [← List.append_assoc]
    exact List.append_nil _
  rw [single]
  apply Body.under positive within _ _ opens below
  · simp [unbroken]
  · cases header with
    | nil => decide
    | cons c rest => simpa using flush

theorem Setting.body_map_clausePart
    (positive : 0 < setting.width)
    (within : 0 ≤ depth)
    {headers : List Text}
    (solid : ∀ header ∈ headers, header.Solid) :
    Stepped setting.width (margin setting.width depth)
      (partsLines (headers.map (setting.clausePart depth []))) := by
  induction headers with
  | nil => exact Stepped.nil
  | cons header others ih =>
      have first := solid header List.mem_cons_self
      have rest := ih fun other member => solid other (List.mem_cons_of_mem _ member)
      have clause :=
        setting.body_clausePart positive within first.unbroken first.flush (absurd rfl)
      rw [List.map_cons, ← List.singleton_append, partsLines_append]
      exact (clause.append rest).toStepped

/-- The test that closes a loop opens a level for the line that leaves the loop. -/
theorem body_closing
    (python : setting.language = .python)
    (positive : 0 < setting.width)
    (within : 0 ≤ depth)
    {fields : Fields}
    (condition : (fields.text "condition").Solid) :
    Body setting.width (margin setting.width depth)
      (Layout.lines setting.width depth (fields.fill setting.language.headers.doClosing) ++
        Layout.lines setting.width (depth + 1) "break") := by
  have test :
      fields.fill setting.language.headers.doClosing =
        "if not (".toList ++ (fields.text "condition" ++ "):".toList) := by
    rw [python]
    rfl
  have opened : '\n' ∉ "if not (".toList := by decide
  have closed : '\n' ∉ "):".toList := by decide
  have unbroken : '\n' ∉ "if not (".toList ++ (fields.text "condition" ++ "):".toList) := by
    simp only [List.mem_append, not_or]
    exact ⟨opened, condition.unbroken, closed⟩
  have flush :
      ("if not (".toList ++ (fields.text "condition" ++ "):".toList)).head? ≠ some ' ' := by
    rw [List.head?_append_of_ne_nil _ (by decide)]
    decide
  have opens :
      Text.IsOpener ("if not (".toList ++ (fields.text "condition" ++ "):".toList)) := by
    rw [← List.append_assoc, Layout.isOpener_append (by decide)]
    decide
  have leave :
      Body setting.width (margin setting.width (depth + 1))
        (Layout.lines setting.width (depth + 1) "break") := by
    have body : Body Layout.nesting 0 (List.splitOn '\n' "break") := by decide
    exact body.moved positive (Int.add_nonneg within Int.one_nonneg)
  rw [test, Layout.lines_of_flush unbroken flush (List.append_ne_nil_of_left_ne_nil (by decide) _)]
  exact Body.under positive within unbroken flush opens leave

section Blocks

variable {fields : Fields} {kind : Block}
  (python : setting.language = .python)
  (same : fields.language = .python)
  (known : Tag.ofName? fields.type = some (.block kind))
  (inline :
    ∀ property ∈ Language.python.rawProperties (.block kind), fields.InlineProperty property)

include same known inline

theorem solid_header
    {template : Template}
    (ordinary : kind ≠ .doWhile)
    (written : template ∈ Dialect.Python.headers.templates kind) :
    Text.Solid (template.fill (fields.slotWith (fields.extraTexts (.block kind)))) := by
  apply Template.solid_fill _ (Dialect.Python.oneLine_headers kind ordinary template written)
  intro slot asked
  have found : template ∈ fields.language.templates (.block kind) := by
    rw [same]
    exact written
  exact Fields.solid_slotWith same known inline found asked

include python

theorem solid_blockHeader :
    (blockHeader setting fields kind).Solid := by
  rcases setting with ⟨language, width⟩
  obtain rfl : language = .python := python
  cases kind with
  | doWhile => exact (by decide : Text.Solid Dialect.Python.headers.doOpening)
  | counting | forEach | whileLoop | conditional | ifElse | ifElseIf | switch =>
      exact solid_header same known inline (by decide) List.mem_cons_self

theorem solid_laterHeaders :
    ∀ header ∈ laterHeaders setting fields kind, header.Solid := by
  rcases setting with ⟨language, width⟩
  obtain rfl : language = .python := python
  have otherwise : Text.Solid Dialect.Python.headers.otherwise := by decide
  cases kind with
  | ifElse => exact List.forall_mem_singleton.2 otherwise
  | ifElseIf =>
      have second :
          Text.Solid (fields.fill Dialect.Python.headers.secondCondition) :=
        solid_header same known inline (by decide) (List.mem_cons_of_mem _ List.mem_cons_self)
      exact List.forall_mem_cons.2 ⟨second, List.forall_mem_singleton.2 otherwise⟩
  | counting | forEach | whileLoop | doWhile | conditional | switch =>
      exact fun header member => absurd member List.not_mem_nil

theorem body_firstBody
    (positive : 0 < setting.width)
    (within : 0 ≤ depth)
    {body : List Part}
    (inside :
      body ≠ [] →
        Body setting.width (margin setting.width (depth + kind.childDepth)) (partsLines body))
    (nonempty : firstBody setting fields depth body kind ≠ []) :
    Body setting.width (margin setting.width (depth + 1))
      (partsLines (firstBody setting fields depth body kind)) := by
  have deeper : 0 ≤ depth + 1 := Int.add_nonneg within Int.one_nonneg
  have second : depth + 1 + 1 = depth + 2 := by omega
  cases kind with
  | counting | forEach | whileLoop | conditional | ifElse | ifElseIf => exact inside nonempty
  | doWhile =>
      have condition : (fields.text "condition").Solid :=
        Fields.solid_text same known inline (by decide)
      have closing := body_closing python positive deeper condition
      rw [second] at closing
      have above :
          Stepped setting.width (margin setting.width (depth + 1)) (partsLines body) := by
        by_cases empty : body = []
        · rw [empty]
          exact Stepped.nil
        · exact (inside empty).toStepped
      rw [firstBody, partsLines_append, partsLines_map_line]
      exact closing.append_left above
  | switch =>
      have case :
          Text.Solid (fields.fill setting.language.headers.case) := by
        rw [python]
        exact solid_header same known inline (by decide)
          (List.mem_cons_of_mem _ List.mem_cons_self)
      have otherCase : Text.Solid "case _".toList := by decide
      have below :
          body ≠ [] →
            Body setting.width (margin setting.width (depth + 1 + 1)) (partsLines body) := by
        rw [second]
        exact inside
      have first :=
        setting.body_clausePart positive deeper case.unbroken case.flush below
      have rest :=
        setting.body_clausePart positive deeper otherCase.unbroken otherCase.flush (absurd rfl)
      rw [firstBody, ← List.singleton_append, partsLines_append]
      exact first.append rest.toStepped

theorem body_blockParts
    (positive : 0 < setting.width)
    (within : 0 ≤ depth)
    {body : List Part}
    (inside :
      body ≠ [] →
        Body setting.width (margin setting.width (depth + kind.childDepth)) (partsLines body)) :
    Body setting.width (margin setting.width depth)
      (partsLines (blockParts setting fields depth body kind)) := by
  have header := solid_blockHeader python same known inline
  have later := solid_laterHeaders python same known inline
  have first :=
    setting.body_clausePart positive within header.unbroken header.flush
      (body_firstBody python same known inline positive within inside)
  rw [blockParts, ← List.singleton_append, partsLines_append]
  exact first.append (setting.body_map_clausePart positive within later)

end Blocks

end Outline

/-! ## Elements and methods -/

/-- An element outside the vocabulary does not end as an opener does when it is flattened. -/
def Element.TypeClosed (element : Element) : Prop :=
  element.tag? = none → ¬Text.IsOpener (Text.flatten element.type.toList)

instance (element : Element) : Decidable element.TypeClosed :=
  inferInstanceAs (Decidable (_ → _))

/-- The texts that a method contributes to a Python file without quotes are inline. -/
structure Method.InlineTexts (method : Method) : Prop where
  returnType : Text.Inline method.returnType.toList
  name : Text.Inline method.name.toList
  parameters :
    ∀ parameter ∈ method.parameters,
      Text.Inline parameter.name.toList ∧ Text.Inline parameter.type.toList
  elements : ∀ element ∈ elementsRendered method.elements, element.InlineTexts

/-- The texts that a project contributes to a Python file without quotes are inline. -/
structure Project.InlineTexts (project : Project) : Prop where
  namespaceName : Text.Inline project.namespaceName.toList
  className : Text.Inline project.className.toList
  methods : ∀ method ∈ project.methods, method.InlineTexts

instance (method : Method) : Decidable method.InlineTexts :=
  decidable_of_iff
    (Text.Inline method.returnType.toList ∧
      Text.Inline method.name.toList ∧
      (∀ parameter ∈ method.parameters,
        Text.Inline parameter.name.toList ∧ Text.Inline parameter.type.toList) ∧
      ∀ element ∈ elementsRendered method.elements, element.InlineTexts)
    ⟨fun all => ⟨all.1, all.2.1, all.2.2.1, all.2.2.2⟩,
      fun inline => ⟨inline.1, inline.2, inline.3, inline.4⟩⟩

instance (project : Project) : Decidable project.InlineTexts :=
  decidable_of_iff
    (Text.Inline project.namespaceName.toList ∧
      Text.Inline project.className.toList ∧
      ∀ method ∈ project.methods, method.InlineTexts)
    ⟨fun all => ⟨all.1, all.2.1, all.2.2⟩, fun inline => ⟨inline.1, inline.2, inline.3⟩⟩

namespace Generator

variable {generator : Generator} {depth : Int}

theorem body_comment
    (python : generator.language = .python)
    {text : Text}
    (closed : ¬Text.IsOpener (Text.flatten text)) :
    Body generator.settings.indentWidth (margin generator.settings.indentWidth depth)
      [generator.comment depth text] := by
  have spelled :
      generator.comment depth text =
        Layout.indent generator.settings.indentWidth depth ++ '#' :: ' ' :: Text.flatten text := by
    have mark : generator.language.commentMark = ['#'] := by
      rw [python]
      rfl
    rw [comment, Layout.comment, mark]
    simp
  have flat : ¬Text.IsOpener ('#' :: ' ' :: Text.flatten text) := by
    by_cases empty : Text.flatten text = []
    · rw [empty]
      decide
    · have apart : '#' :: ' ' :: Text.flatten text = ['#', ' '] ++ Text.flatten text := rfl
      rwa [apart, Layout.isOpener_append empty]
  rw [spelled]
  apply Body.single
  · simp [Layout.indent, List.mem_replicate, Text.newline_not_mem_flatten]
  · exact Layout.dvd_margin
  · exact Layout.leadingSpaces_indent_append (by simp)
  · rwa [Layout.isOpener_append (List.cons_ne_nil _ _)]
  · simp

theorem body_definition
    (python : generator.language = .python)
    (within : 0 ≤ depth)
    (utility : Utility) :
    Body generator.settings.indentWidth (margin generator.settings.indentWidth depth)
      (generator.definition depth utility) := by
  have positive : 0 < generator.settings.indentWidth := generator.settings.one_le_indentWidth
  rw [definition, python]
  exact (Dialect.Python.body_utilitySource utility).moved positive within

theorem body_statement
    (python : generator.language = .python)
    (within : 0 ≤ depth)
    {element : Element} {kind : Statement}
    (known : element.tag? = some (.statement kind))
    (inline : element.InlineTexts) :
    Body generator.settings.indentWidth (margin generator.settings.indentWidth depth)
      (generator.elementLines depth element) := by
  have named : Tag.ofName? (element.fields .python).type = some (.statement kind) := known
  have filled :
      Body Layout.nesting 0
        (List.splitOn '\n'
          ((element.fields .python).fill (Language.python.statement kind))) := by
    apply Template.body_fill _ (Dialect.Python.nested_statement kind)
    intro slot asked
    exact Fields.solid_slotWith rfl named (inline.properties _ known) List.mem_cons_self asked
  have outline := element.outline_eq generator.setting depth
  rw [known] at outline
  rw [← python] at filled
  rw [elementLines, outline]
  simp only [Outline.Setting.lines, render_map_line]
  exact filled.moved generator.settings.one_le_indentWidth within

/-- What stands inside a clause is a piece if it is not empty and each of its elements is one. -/
theorem body_flatMap_parts
    (python : generator.language = .python)
    {elements : List Element}
    (each :
      ∀ element ∈ elements,
        Body generator.settings.indentWidth (margin generator.settings.indentWidth depth)
          (generator.elementLines depth element))
    (nonempty : elements.flatMap (Element.parts generator depth) ≠ []) :
    Body generator.setting.width (margin generator.setting.width depth)
      (partsLines (elements.flatMap (Element.parts generator depth))) := by
  rw [partsLines_flatMap]
  apply Body.flatMap
  · intro none
    exact nonempty (by rw [none]; rfl)
  · intro element member
    rw [element.partsLines_parts python]
    exact each element member

/-- Every element is a piece that stands at the margin of its depth. -/
theorem body_elementLines
    (python : generator.language = .python)
    (within : 0 ≤ depth)
    {element : Element}
    (inline : ∀ inner ∈ element.rendered, inner.InlineTexts)
    (closed : ∀ inner ∈ element.rendered, inner.TypeClosed) :
    Body generator.settings.indentWidth (margin generator.settings.indentWidth depth)
      (generator.elementLines depth element) := by
  have positive : 0 < generator.settings.indentWidth := generator.settings.one_le_indentWidth
  induction element using Element.childInduction generalizing depth with
  | step element ih =>
      have own := inline element element.self_mem_rendered
      have outline := element.outline_eq generator.setting depth
      rcases tag : element.tag? with _ | (kind | kind | kind)
      · rw [tag] at outline
        rw [elementLines, outline, render_singleton]
        exact body_comment python (closed element element.self_mem_rendered tag)
      · exact body_statement python within tag own
      · have known :
            Tag.ofName? (element.fields generator.language).type = some (.block kind) :=
          tag
        have texts :
            ∀ property ∈ Language.python.rawProperties (.block kind),
              (element.fields generator.language).InlineProperty property := by
          rw [python]
          exact own.properties _ tag
        have children :
            ∀ child ∈ element.childList,
              Body generator.settings.indentWidth
                (margin generator.settings.indentWidth (depth + kind.childDepth))
                (generator.elementLines (depth + kind.childDepth) child) := by
          intro child member
          have below := Element.rendered_subset_of_block tag member
          exact ih child member (Int.add_nonneg within kind.childDepth_nonneg)
            (fun inner written => inline inner (below written))
            (fun inner written => closed inner (below written))
        have parts := element.parts_eq generator depth
        rw [tag] at parts
        rw [← element.partsLines_parts python, parts]
        exact Outline.body_blockParts python python known texts positive within
          (body_flatMap_parts python children)
      · rw [tag] at outline
        have inPlace : generator.hoists = false := by
          rw [hoists, python]
          rfl
        rw [elementLines, outline, render_singleton, entryLines, inPlace]
        exact body_definition python within kind

theorem unbroken_hintedHeader
    {method : Method}
    (inline : method.InlineTexts) :
    '\n' ∉ generator.hintedHeader method := by
  rw [newline_mem_hintedHeader_iff]
  rintro (broken | broken | ⟨parameter, member, broken | broken⟩)
  · exact inline.returnType.unbroken broken
  · exact inline.name.unbroken broken
  · exact (inline.parameters parameter member).1.unbroken broken
  · exact (inline.parameters parameter member).2.unbroken broken

theorem flush_hintedHeader
    (method : Method) :
    (generator.hintedHeader method).head? ≠ some ' ' := by
  obtain ⟨rest, spelled⟩ : ∃ rest, generator.hintedHeader method = 'd' :: rest := ⟨_, rfl⟩
  rw [spelled]
  simp

theorem stepped_methodPreamble
    (python : generator.language = .python)
    (depth : Int) (method : Method) :
    Stepped generator.settings.indentWidth (margin generator.settings.indentWidth depth)
      ((generator.methodPreamble method).map (generator.indent depth ++ ·)) := by
  apply Stepped.of_forall Layout.dvd_margin
  intro line member
  obtain ⟨text, inside, rfl⟩ := List.mem_map.1 member
  obtain rfl : text = "@staticmethod".toList := by
    rw [methodPreamble, python] at inside
    simp only at inside
    split at inside
    · exact List.mem_singleton.1 inside
    · exact absurd inside List.not_mem_nil
  refine ⟨?_, ?_, ?_⟩
  · simp [indent, Layout.indent, List.mem_replicate]
  · exact Layout.leadingSpaces_indent_append (by decide)
  · rw [Layout.isOpener_append (by decide)]
    decide

theorem body_methodLines
    (python : generator.language = .python)
    (within : 0 ≤ depth)
    {method : Method}
    (inline : method.InlineTexts)
    (closed : ∀ element ∈ elementsRendered method.elements, element.TypeClosed) :
    Body generator.settings.indentWidth (margin generator.settings.indentWidth depth)
      (generator.methodLines depth method) := by
  have positive : 0 < generator.settings.indentWidth := generator.settings.one_le_indentWidth
  have elements :
      ∀ element ∈ method.elements,
        Body generator.settings.indentWidth (margin generator.settings.indentWidth (depth + 1))
          (generator.elementLines (depth + 1) element) := by
    intro element member
    have below := Element.rendered_subset_elementsRendered member
    exact body_elementLines python (Int.add_nonneg within Int.one_nonneg)
      (fun inner written => inline.elements inner (below written))
      (fun inner written => closed inner (below written))
  have header : generator.methodHeader method = generator.hintedHeader method := by
    rw [methodHeader, python]
  have clause :=
    generator.setting.body_clausePart positive within
      (unbroken_hintedHeader inline) (generator.flush_hintedHeader method)
      (body_flatMap_parts python elements)
  rw [← header] at clause
  rw [← partsLines_methodParts python, methodParts, elementsParts_eq_flatMap, partsLines_append,
    partsLines_map_line]
  exact clause.append_left (stepped_methodPreamble python depth method)

/-- The members of a class are set apart by blank lines alone. -/
theorem body_members
    (python : generator.language = .python)
    (none : generator.hoisted = [])
    (within : 0 ≤ depth)
    {methods : List Method}
    (nonempty : methods ≠ [])
    (inline : ∀ method ∈ methods, method.InlineTexts)
    (closed :
      ∀ method ∈ methods, ∀ element ∈ elementsRendered method.elements, element.TypeClosed) :
    Body generator.settings.indentWidth (margin generator.settings.indentWidth depth)
      (generator.members depth methods) := by
  rw [members, none, List.map_nil, List.append_nil]
  apply Body.separated
  · simpa using nonempty
  · intro block member
    obtain ⟨method, inside, rfl⟩ := List.mem_map.1 member
    exact body_methodLines python within (inline method inside) (closed method inside)

theorem stepped_namespaceLine
    {width : Nat}
    (aligned : width ∣ 0)
    {project : Project}
    (inline : Text.Inline project.namespaceName.toList) :
    Stepped width 0 (namespaceLine project "# Module: " "") := by
  rw [namespaceLine]
  split
  · exact Stepped.nil
  · next named =>
      have nonempty : project.namespaceName.toList ≠ [] := by simpa using named
      have spelled :
          "# Module: ".toList ++ project.namespaceName.toList ++ "".toList =
            "# Module: ".toList ++ project.namespaceName.toList :=
        List.append_nil _
      rw [spelled]
      apply Stepped.single _ aligned
      · rfl
      · rw [Layout.isOpener_append nonempty]
        exact inline.closed
      · simp only [List.mem_append, not_or]
        exact ⟨by decide, inline.unbroken⟩

/-- A class without members holds the line that stands for an empty body. -/
theorem body_class
    (python : generator.language = .python)
    (none : generator.hoisted = [])
    {project : Project}
    (inline : project.InlineTexts)
    (closed :
      ∀ method ∈ project.methods, ∀ element ∈ elementsRendered method.elements,
        element.TypeClosed) :
    Body generator.settings.indentWidth 0
      (("class ".toList ++ project.className.toList ++ ":".toList) ::
        if (generator.members 1 project.methods).isEmpty then
          generator.lines 1 "pass"
        else
          generator.members 1 project.methods) := by
  have positive : 0 < generator.settings.indentWidth := generator.settings.one_le_indentWidth
  have inside :
      Body generator.settings.indentWidth (0 + generator.settings.indentWidth)
        (if (generator.members 1 project.methods).isEmpty then
          generator.lines 1 "pass"
        else
          generator.members 1 project.methods) := by
    have margin : margin generator.settings.indentWidth 1 = 0 + generator.settings.indentWidth := by
      simp [Layout.margin]
    rw [← margin]
    split
    · exact Layout.body_pass positive Int.one_nonneg
    · next written =>
        apply body_members python none Int.one_nonneg _ inline.methods closed
        intro empty
        apply written
        rw [empty, members, none]
        rfl
  apply Body.opening _ (Nat.dvd_zero _) positive _ _ inside
  · simp only [List.mem_append, not_or]
    exact ⟨⟨by decide, inline.className.unbroken⟩, by decide⟩
  · rfl
  · rw [Layout.isOpener_append (by decide)]
    decide

/-- A file stands at the outermost level. -/
theorem stepped_file
    (python : generator.language = .python)
    (none : generator.hoisted = [])
    {project : Project}
    (inline : project.InlineTexts)
    (closed :
      ∀ method ∈ project.methods, ∀ element ∈ elementsRendered method.elements,
        element.TypeClosed) :
    Stepped generator.settings.indentWidth 0 (generator.file project) := by
  have aligned : generator.settings.indentWidth ∣ 0 := Nat.dvd_zero _
  have namespaceLine := stepped_namespaceLine aligned inline.namespaceName
  have prologue : Stepped generator.settings.indentWidth 0 pythonPrologue := by
    apply Stepped.of_forall aligned
    decide
  have blanks : Stepped generator.settings.indentWidth 0 [[], []] :=
    Stepped.blank.append Stepped.blank
  have written := (body_class python none inline closed).toStepped
  have file := (namespaceLine.append prologue).append (blanks.append written)
  rw [Generator.file, python]
  exact file

end Generator

/-! ## Projects -/

/--
A Python file is indented with discipline at every width of a level, if none of
the texts that the project contributes without quotes breaks a line, begins with a
space or ends in a colon or an opening parenthesis, and if none of the types that
it writes in comments does so once it is flattened to one line.
-/
theorem Project.disciplined_sourceIn
    {settings : Settings} {project : Project}
    (inline : project.InlineTexts)
    (closed :
      ∀ method ∈ project.methods, ∀ element ∈ elementsRendered method.elements,
        element.TypeClosed) :
    Layout.Disciplined settings.indentWidth
      (List.splitOn '\n' (project.sourceIn .python settings)) := by
  let generator := Generator.make .python settings project.methods
  have python : generator.language = .python := rfl
  have none : generator.hoisted = [] := rfl
  have file : Stepped settings.indentWidth 0 (generator.file project) :=
    Generator.stepped_file python none inline closed
  rw [sourceIn, Generator.source, Text.splitOn_ofLines file.unbroken]
  exact Layout.Disciplined.of_stepped settings.one_le_indentWidth (file.append Stepped.blank)

/-- A project with blocks in blocks, a utility in place and a type that is written in a comment. -/
def nestedBlocks : Project where
  methods := [
    { isStatic := true
      elements := [
        { type := "do-while", children := some [
            { type := "switch", children := some [{ type := "todo: later" }] },
            { type := "console.writeline", properties := [("message", .text " (\n:")] }] },
        { type := "validate-password" }] },
    { name := "Rest" }]

theorem nestedBlocks_disciplined :
    let settings : Settings := { indentWidth := 3 }
    nestedBlocks.InlineTexts ∧
      (∀ method ∈ nestedBlocks.methods, ∀ element ∈ elementsRendered method.elements,
        element.TypeClosed) ∧
      Layout.Disciplined settings.indentWidth
        (List.splitOn '\n' (nestedBlocks.sourceIn .python settings)) := by
  intro settings
  have inline : nestedBlocks.InlineTexts := by decide
  have closed :
      ∀ method ∈ nestedBlocks.methods, ∀ element ∈ elementsRendered method.elements,
        element.TypeClosed := by
    decide
  exact ⟨inline, closed, Project.disciplined_sourceIn inline closed⟩

/-- A method with an element whose type ends in a form feed. -/
def trailingBreak : Project where
  language := "python"
  methods := [{ elements := [{ type := "todo:\x0c" }, { type := "break" }] }]

theorem trailingBreak_undisciplined :
    trailingBreak.InlineTexts ∧
      ¬Layout.Disciplined Settings.standard.indentWidth
        (List.splitOn '\n' (trailingBreak.sourceIn .python .standard)) := by
  decide

end Blockwright
