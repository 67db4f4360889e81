import Blockwright.Proofs.LineBreaks.Texts
import Blockwright.Proofs.Suites.Tree

/-!
# Silent suites

Python asks of every suite that it hold a statement: blank lines and comments do
not count.  The generator fills a suite that would have no lines at all, yet an
element of a type outside the vocabulary is written as a comment, so a suite may
have lines and still be silent.  So may a suite of assignments to a name that
begins with a number sign.

`Project.suites_holdStatement_iff` says that these are the only cases: all suites
of a file hold a statement exactly if no method and no block has elements that
are silent one and all.  A loop that tests last is never affected, since its test
is a statement of its suite.
-/

namespace Blockwright

/-! ## Lines that hold a statement -/

/-- The characters that may stand before the statement or the comment of a line. -/
def Text.isBlank (c : Char) : Bool :=
  c = ' ' || c = '\t' || c = '\x0c'

/-- The line is neither blank nor a comment. -/
def Text.IsStatement (line : Text) : Prop :=
  ∃ c ∈ (line.dropWhile isBlank).head?, c ≠ '#'

instance (line : Text) : Decidable line.IsStatement :=
  Option.decidableExistsMem (line.dropWhile Text.isBlank).head?

/-- One of the lines, where a line feed also ends a line, is neither blank nor a comment. -/
def HoldStatement (lines : List Line) : Prop :=
  ∃ written ∈ lines, ∃ line ∈ List.splitOn '\n' written, Text.IsStatement line

instance (lines : List Line) : Decidable (HoldStatement lines) :=
  List.decidableBEx _ lines

/-- The lines of the suite hold a statement. -/
def Suite.HoldsStatement (suite : Suite) : Prop :=
  HoldStatement suite.body

instance (suite : Suite) : Decidable suite.HoldsStatement :=
  inferInstanceAs (Decidable (HoldStatement suite.body))

/-- The text begins with a statement, on its very first line. -/
def Text.OpensStatement (text : Text) : Prop :=
  ∃ c ∈ text.head?, isBlank c = false ∧ c ≠ '#' ∧ c ≠ '\n'

instance (text : Text) : Decidable text.OpensStatement :=
  Option.decidableExistsMem text.head?

namespace Text

theorem isStatement_spaces_append
    (count : Nat) (line : Text) :
    IsStatement (List.replicate count ' ' ++ line) ↔ line.IsStatement := by
  induction count with
  | zero => rfl
  | succ count ih => exact ih

/-- Moving a line to a depth does not change whether it holds a statement. -/
theorem isStatement_line_iff
    (width : Nat) (depth : Int) (raw : Text) :
    IsStatement (Layout.line width depth raw) ↔ raw.IsStatement := by
  have unmoved : raw.IsStatement ↔ IsStatement (raw.dropWhile (· = ' ')) := by
    have apart := isStatement_spaces_append (Layout.leadingSpaces raw) (raw.dropWhile (· = ' '))
    rwa [Layout.replicate_leadingSpaces_append] at apart
  rw [unmoved]
  simp only [Layout.line]
  split
  · next blank => rw [blank]
  · simp only [Layout.indent]
    rw [List.append_assoc, isStatement_spaces_append, isStatement_spaces_append]

end Text

theorem holdStatement_append
    (first second : List Line) :
    HoldStatement (first ++ second) ↔ HoldStatement first ∨ HoldStatement second := by
  simp only [HoldStatement, List.mem_append, or_and_right, exists_or]

theorem holdStatement_flatMap
    {α : Type} (items : List α) (write : α → List Line) :
    HoldStatement (items.flatMap write) ↔ ∃ item ∈ items, HoldStatement (write item) := by
  simp only [HoldStatement, List.mem_flatMap]
  constructor
  · rintro ⟨written, ⟨item, member, inside⟩, holds⟩
    exact ⟨item, member, written, inside, holds⟩
  · rintro ⟨item, member, written, inside, holds⟩
    exact ⟨written, ⟨item, member, inside⟩, holds⟩

/-- A text moved to a depth holds a statement if one of its lines does. -/
theorem holdStatement_lines
    (width : Nat) (depth : Int) (text : Text) :
    HoldStatement (Layout.lines width depth text) ↔
      ∃ piece ∈ List.splitOn '\n' text, Text.IsStatement piece := by
  have single {raw : Text} (member : raw ∈ List.splitOn '\n' text) :
      List.splitOn '\n' (Layout.line width depth raw) = [Layout.line width depth raw] :=
    List.splitOn_eq_singleton
      (Text.newline_not_mem_line (Text.not_mem_of_mem_splitOn member) width depth)
  constructor
  · rintro ⟨written, member, line, inside, statement⟩
    rcases List.mem_map.1 member with ⟨raw, piece, rfl⟩
    rw [single piece, List.mem_singleton] at inside
    rw [inside, Text.isStatement_line_iff] at statement
    exact ⟨raw, piece, statement⟩
  · rintro ⟨raw, piece, statement⟩
    refine ⟨_, List.mem_map_of_mem piece, Layout.line width depth raw, ?_, ?_⟩
    · rw [single piece]
      exact List.mem_cons_self
    · exact (Text.isStatement_line_iff width depth raw).2 statement

/-- A text that opens with a statement has a first line that does. -/
theorem Text.OpensStatement.exists_mem_splitOn
    {text : Text}
    (opens : text.OpensStatement)
    (count : Nat) (more : Text) :
    ∃ line ∈ List.splitOn '\n' (List.replicate count ' ' ++ text ++ more),
      Text.IsStatement line := by
  obtain ⟨c, first, notBlank, notComment, notBreak⟩ := opens
  obtain ⟨rest, rfl⟩ : ∃ rest, text = c :: rest := by
    cases text with
    | nil => simp at first
    | cons d rest =>
        have same : d = c := by simpa using first
        exact ⟨rest, by rw [same]⟩
  have whole : '\n' ∉ List.replicate count ' ' ++ [c] := by
    simp [List.mem_replicate, Ne.symm notBreak]
  obtain ⟨line, others, _, pieces⟩ := exists_splitOn_append whole (rest ++ more)
  have written :
      List.replicate count ' ' ++ c :: rest ++ more =
        List.replicate count ' ' ++ [c] ++ (rest ++ more) := by
    simp
  rw [written, pieces]
  refine ⟨_, List.mem_cons_self, ?_⟩
  rw [List.append_assoc, isStatement_spaces_append]
  exact ⟨c, by simp [notBlank], notComment⟩

theorem Text.OpensStatement.holdStatement_lines
    {text : Text}
    (opens : text.OpensStatement)
    (width : Nat) (depth : Int) :
    HoldStatement (Layout.lines width depth text) := by
  have first := opens.exists_mem_splitOn 0 []
  rw [List.append_nil] at first
  exact (Blockwright.holdStatement_lines width depth text).2 first

theorem Text.OpensStatement.holdStatement_opening
    {setting : Outline.Setting} {header : Text}
    (opens : header.OpensStatement)
    (style : setting.language.style = .indentation)
    (depth : Int) :
    HoldStatement (setting.opening depth header) := by
  have first := opens.exists_mem_splitOn (setting.width * depth.toNat) [':']
  rw [Outline.Setting.opening, style]
  exact ⟨_, List.mem_cons_self, first⟩

theorem Outline.Setting.holdStatement_filler
    (setting : Setting) (depth : Int) :
    HoldStatement [setting.filler depth] := by
  have pass : Text.OpensStatement "pass" := by decide
  exact pass.holdStatement_lines setting.width depth

namespace Generator

variable {generator : Generator}

/-- A comment never holds a statement, whatever its text. -/
theorem not_holdStatement_comment
    (python : generator.language = .python)
    (depth : Int) (text : Text) :
    ¬HoldStatement [generator.comment depth text] := by
  have mark : generator.language.commentMark = ['#'] := by rw [python]; rfl
  have whole : '\n' ∉ generator.comment depth text := by
    have flat := Text.newline_not_mem_flatten text
    simp [comment, Layout.comment, Layout.indent, mark, List.mem_replicate, flat]
  have silent : ¬Text.IsStatement (generator.comment depth text) := by
    simp only [comment, Layout.comment, Layout.indent, mark]
    rw [List.append_assoc, List.append_assoc, Text.isStatement_spaces_append]
    rintro ⟨c, first, notComment⟩
    have same : '#' = c := by simpa [Text.isBlank] using first
    exact notComment same.symm
  rintro ⟨written, member, line, inside, statement⟩
  rw [List.mem_singleton.1 member, List.splitOn_eq_singleton whole, List.mem_singleton] at inside
  exact silent (inside ▸ statement)

end Generator

/-! ## Silent elements -/

/-- What Python is written for the element holds no statement of its own. -/
def Element.Silent (element : Element) : Prop :=
  match element.tag? with
  | none => True
  | some (.statement kind) =>
      ∀ line ∈ List.splitOn '\n' ((element.fields .python).fill (Language.python.statement kind)),
        ¬Text.IsStatement line
  | some (.block _) => False
  | some (.utility _) => False

/-- An assignment to a name without a number sign holds a statement, whatever it assigns. -/
theorem Text.exists_isStatement_assignment
    {name : Text}
    (noMark : '#' ∉ name)
    (value : Text) :
    ∃ line ∈ List.splitOn '\n' (name ++ ' ' :: '=' :: value), Text.IsStatement line := by
  induction name with
  | nil =>
      have opens : OpensStatement ['='] := by decide
      exact opens.exists_mem_splitOn 1 value
  | cons c rest ih =>
      rw [List.mem_cons, not_or] at noMark
      obtain ⟨line, member, statement⟩ := ih noMark.2
      rw [List.cons_append, List.splitOn_cons_eq_if_modifyHead]
      split
      · exact ⟨line, List.mem_cons_of_mem _ member, statement⟩
      · cases pieces : List.splitOn '\n' (rest ++ ' ' :: '=' :: value) with
        | nil => exact absurd pieces (List.splitOn_ne_nil _ _)
        | cons first others =>
            rw [pieces] at member
            rcases List.mem_cons.1 member with same | member
            · refine ⟨c :: first, List.mem_cons_self, ?_⟩
              rw [same] at statement
              simp only [IsStatement] at statement ⊢
              cases blank : isBlank c with
              | true => simpa [blank] using statement
              | false => simpa [blank] using Ne.symm noMark.1
            · exact ⟨line, List.mem_cons_of_mem _ member, statement⟩

/-- A Python statement assigns to the element's name, or it opens with a keyword or a function. -/
theorem Language.assigns_or_opensStatement
    (fields : Fields) (kind : Statement) :
    (∃ value, fields.fill (Language.python.statement kind) =
        fields.text "name" ++ ' ' :: '=' :: value) ∨
      Text.OpensStatement (fields.fill (Language.python.statement kind)) := by
  cases kind with
  | «variable» | constant | array | list | dictionary | string | int | long | float | double
  | decimal | bool | char | byte | short => exact .inl ⟨_, rfl⟩
  | _ => exact .inr ⟨_, rfl, by decide⟩

/-- A silent element is outside the vocabulary, or its name holds a number sign. -/
theorem Element.tag?_eq_none_of_silent
    {element : Element}
    (noMark : '#' ∉ (element.fields .python).text "name")
    (silent : element.Silent) :
    element.tag? = none := by
  simp only [Silent] at silent
  rcases tag : element.tag? with _ | (kind | kind | kind)
  · rfl
  · rw [tag] at silent
    rcases Language.assigns_or_opensStatement (element.fields .python) kind with
      ⟨value, assigns⟩ | opens
    · obtain ⟨line, member, statement⟩ := Text.exists_isStatement_assignment noMark value
      rw [← assigns] at member
      exact absurd statement (silent line member)
    · obtain ⟨line, member, statement⟩ := opens.exists_mem_splitOn 0 []
      rw [List.append_nil] at member
      exact absurd statement (silent line member)
  · rw [tag] at silent
    exact silent.elim
  · rw [tag] at silent
    exact silent.elim

/-- There are elements, and all of them are silent. -/
def SilentBody (elements : List Element) : Prop :=
  elements ≠ [] ∧ ∀ element ∈ elements, element.Silent

/-- The element is a block that holds nothing but silent elements and needs a statement of them. -/
def Element.HasSilentBody (element : Element) : Prop :=
  ∃ kind, element.block? = some kind ∧ kind ≠ .doWhile ∧ SilentBody element.childList

theorem Outline.opensStatement_blockHeader
    (setting : Setting)
    (python : setting.language = .python)
    (fields : Fields) (kind : Block) :
    (blockHeader setting fields kind).OpensStatement := by
  rcases setting with ⟨language, width⟩
  cases python
  cases kind with
  | counting | forEach => exact ⟨'f', rfl, by decide⟩
  | whileLoop | doWhile => exact ⟨'w', rfl, by decide⟩
  | conditional | ifElse | ifElseIf => exact ⟨'i', rfl, by decide⟩
  | switch => exact ⟨'m', rfl, by decide⟩

theorem Language.opensStatement_utilitySource
    (utility : Utility) :
    (Language.python.utilitySource utility).OpensStatement := by
  cases utility
  all_goals exact ⟨'d', rfl, by decide⟩

namespace Generator

variable {generator : Generator}

/-- The lines of an element hold a statement unless the element is silent. -/
theorem holdStatement_elementLines
    (python : generator.language = .python)
    (depth : Int) (element : Element) :
    HoldStatement (generator.elementLines depth element) ↔ ¬element.Silent := by
  rcases generator with ⟨language, settings, hoisted⟩
  cases python
  have outline := element.outline_eq (setting ⟨.python, settings, hoisted⟩) depth
  simp only [Element.Silent]
  rcases tag : element.tag? with _ | (kind | kind | kind)
  · rw [tag] at outline
    rw [elementLines, outline, render_singleton]
    simpa [entryLines] using not_holdStatement_comment rfl depth element.type.toList
  · rw [tag] at outline
    rw [elementLines, outline]
    simp only [Outline.Setting.lines, render_map_line, holdStatement_lines, not_forall, not_not,
      exists_prop]
    rfl
  · have opens :=
      Outline.opensStatement_blockHeader (setting ⟨.python, settings, hoisted⟩) rfl
        (element.fields .python) kind
    have opening :
        HoldStatement
          (Outline.blockOpening (setting ⟨.python, settings, hoisted⟩)
            (element.fields .python) depth kind) :=
      (holdStatement_append _ _).2 (.inl (opens.holdStatement_opening rfl depth))
    rw [elementLines_of_block _ depth tag, holdStatement_append, holdStatement_append]
    exact ⟨fun _ => not_false, fun _ => .inl (.inl opening)⟩
  · rw [tag] at outline
    rw [elementLines, outline, render_singleton]
    have opens := Language.opensStatement_utilitySource kind
    exact ⟨fun _ => not_false, fun _ => opens.holdStatement_lines settings.indentWidth depth⟩

end Generator

/-! ## Suites of blocks -/

/-- All suites of the parts hold a statement. -/
def SuitesHold (parts : List Part) : Prop :=
  ∀ suite ∈ partsSuites parts, suite.HoldsStatement

instance (parts : List Part) : Decidable (SuitesHold parts) :=
  List.decidableBAll _ (partsSuites parts)

theorem suitesHold_append
    (first second : List Part) :
    SuitesHold (first ++ second) ↔ SuitesHold first ∧ SuitesHold second := by
  rw [SuitesHold, partsSuites_append, List.forall_mem_append]
  rfl

theorem suitesHold_flatMap
    {α : Type} (items : List α) (write : α → List Part) :
    SuitesHold (items.flatMap write) ↔ ∀ item ∈ items, SuitesHold (write item) := by
  rw [SuitesHold, partsSuites_flatMap, List.forall_mem_flatMap]
  rfl

theorem suitesHold_map_line
    (lines : List Line) :
    SuitesHold (lines.map .line) := by
  simp [SuitesHold]

namespace Outline

variable (setting : Setting)

/-- A clause holds a statement unless its body is there and holds none. -/
theorem Setting.suitesHold_clausePart
    (depth : Int) (body : List Part) (header : Text) :
    SuitesHold [setting.clausePart depth body header] ↔
      (body ≠ [] → HoldStatement (partsLines body)) ∧ SuitesHold body := by
  have filler := setting.holdStatement_filler (depth + 1)
  cases body with
  | nil =>
      simpa [SuitesHold, clausePart, partsSuites, Part.suites, Suite.HoldsStatement, partsLines,
        Part.lines] using filler
  | cons part others =>
      simp [SuitesHold, clausePart, partsSuites, Part.suites, Suite.HoldsStatement]

theorem Setting.suitesHold_map_clausePart
    (depth : Int) (headers : List Text) :
    SuitesHold (headers.map (setting.clausePart depth [])) := by
  rw [List.map_eq_flatMap, suitesHold_flatMap]
  intro header _
  have nothing : SuitesHold [] := by simp [SuitesHold, partsSuites]
  exact (setting.suitesHold_clausePart depth [] header).2 ⟨fun some => absurd rfl some, nothing⟩

/-- The suites of a block hold statements if those of its children do and its own body does. -/
theorem suitesHold_blockParts
    (python : setting.language = .python)
    (fields : Fields) (depth : Int)
    (body : List Part) (kind : Block) :
    SuitesHold (blockParts setting fields depth body kind) ↔
      (kind ≠ .doWhile → body ≠ [] → HoldStatement (partsLines body)) ∧ SuitesHold body := by
  have style : setting.language.style = .indentation :=
    (Language.style_eq_indentation_iff _).2 python
  have later :=
    setting.suitesHold_map_clausePart depth (laterHeaders setting fields kind)
  rw [blockParts, ← List.singleton_append, suitesHold_append,
    Setting.suitesHold_clausePart, and_iff_left later]
  cases kind with
  | counting | forEach | whileLoop | conditional | ifElse | ifElseIf => simp [firstBody]
  | doWhile =>
      have opens : Text.OpensStatement (fields.fill setting.language.headers.doClosing) := by
        rw [python]
        exact ⟨'i', rfl, by decide⟩
      -- the test that closes the loop speaks for the suite, whatever the children are
      have test :
          HoldStatement (partsLines (firstBody setting fields depth body .doWhile)) := by
        rw [firstBody, partsLines_append, partsLines_map_line, holdStatement_append,
          holdStatement_append]
        exact .inr (.inl (opens.holdStatement_lines setting.width (depth + 1)))
      rw [and_iff_right fun _ => test, firstBody, suitesHold_append,
        and_iff_left (suitesHold_map_line _)]
      simp
  | switch =>
      have opens : Text.OpensStatement (fields.fill setting.language.headers.case) := by
        rw [python]
        exact ⟨'c', rfl, by decide⟩
      -- the suite of the header is its two cases; only the suite of the first has the children
      have cases :
          HoldStatement (partsLines (firstBody setting fields depth body .switch)) := by
        rw [firstBody, Setting.partsLines_clausePart style, holdStatement_append,
          holdStatement_append]
        exact .inl (.inl (opens.holdStatement_opening style (depth + 1)))
      have otherCase := setting.suitesHold_map_clausePart (depth + 1) ["case _"]
      rw [List.map_singleton] at otherCase
      rw [and_iff_right fun _ => cases, firstBody, ← List.singleton_append, suitesHold_append,
        and_iff_left otherCase, Setting.suitesHold_clausePart]
      simp

end Outline

/-! ## Suites of files -/

namespace Generator

variable {generator : Generator}

theorem holdStatement_partsLines
    (python : generator.language = .python)
    (depth : Int) (elements : List Element) :
    HoldStatement (partsLines (elementsParts generator depth elements)) ↔
      ∃ element ∈ elements, ¬element.Silent := by
  rw [partsLines_elementsParts python, holdStatement_flatMap]
  simp only [holdStatement_elementLines python]

/-- A body holds a statement unless it is silent. -/
theorem holdStatement_body_iff
    (python : generator.language = .python)
    (depth : Int) (elements : List Element) :
    (elementsParts generator depth elements ≠ [] →
        HoldStatement (partsLines (elementsParts generator depth elements))) ↔
      ¬SilentBody elements := by
  rw [holdStatement_partsLines python, Ne, elementsParts_eq_flatMap, flatMap_parts_eq_nil_iff]
  simp only [SilentBody, not_and, not_forall, exists_prop, ne_eq]

/-- The suites of an element hold statements unless some block that is written has a silent body. -/
theorem suitesHold_parts
    (python : generator.language = .python)
    (element : Element) (depth : Int) :
    SuitesHold (element.parts generator depth) ↔
      ∀ inner ∈ element.rendered, ¬inner.HasSilentBody := by
  induction element using Element.childInduction generalizing depth with
  | step element ih =>
      have leaf
          (notBlock : element.block? = none)
          (alone : element.rendered = [element])
          (lines : element.parts generator depth =
            (generator.elementLines depth element).map .line) :
          SuitesHold (element.parts generator depth) ↔
            ∀ inner ∈ element.rendered, ¬inner.HasSilentBody := by
        rw [lines, iff_true_left (suitesHold_map_line _), alone]
        simp [Element.HasSilentBody, notBlock]
      have parts := element.parts_eq generator depth
      have rendered := element.rendered_eq
      rcases tag : element.tag? with _ | (kind | kind | kind)
      · rw [tag] at parts rendered
        exact leaf (by simp [Element.block?, tag]) rendered parts
      · rw [tag] at parts rendered
        exact leaf (by simp [Element.block?, tag, Tag.block?]) rendered parts
      · rw [tag] at parts rendered
        have block : element.block? = some kind := (element.block?_eq_some_iff kind).2 tag
        have own :
            element.HasSilentBody ↔ kind ≠ .doWhile ∧ SilentBody element.childList := by
          simp [Element.HasSilentBody, block]
        have body := holdStatement_body_iff python (depth + kind.childDepth) element.childList
        simp only [elementsParts_eq_flatMap] at body
        rw [parts, Outline.suitesHold_blockParts generator.setting python,
          suitesHold_flatMap, rendered, List.forall_mem_cons, List.forall_mem_flatMap, body, own,
          not_and]
        refine and_congr_right fun _ => forall₂_congr fun child member => ?_
        exact ih child member (depth + kind.childDepth)
      · rw [tag] at parts rendered
        exact leaf (by simp [Element.block?, tag, Tag.block?]) rendered parts

theorem suitesHold_methodParts
    (python : generator.language = .python)
    (depth : Int) (method : Method) :
    SuitesHold (generator.methodParts depth method) ↔
      ¬SilentBody method.elements ∧
        ∀ element ∈ elementsRendered method.elements, ¬element.HasSilentBody := by
  rw [methodParts, suitesHold_append, and_iff_right (suitesHold_map_line _),
    Outline.Setting.suitesHold_clausePart, holdStatement_body_iff python,
    elementsParts_eq_flatMap, suitesHold_flatMap, elementsRendered_eq_flatMap,
    List.forall_mem_flatMap]
  simp only [suitesHold_parts python]

theorem suitesHold_intercalate
    {separator : List Part}
    (apart : SuitesHold separator)
    (blocks : List (List Part)) :
    SuitesHold (separator.intercalate blocks) ↔ ∀ block ∈ blocks, SuitesHold block := by
  induction blocks with
  | nil => simp [SuitesHold, partsSuites]
  | cons block others ih =>
      cases others with
      | nil => simp
      | cons second more =>
          rw [List.intercalate_cons_cons, suitesHold_append, suitesHold_append, ih,
            and_iff_left apart]
          exact List.forall_mem_cons.symm

theorem suitesHold_fileParts
    (python : generator.language = .python)
    (project : Project) :
    SuitesHold (generator.fileParts project) ↔
      ∀ method ∈ project.methods,
        ¬SilentBody method.elements ∧
          ∀ element ∈ elementsRendered method.elements, ¬element.HasSilentBody := by
  have members :
      SuitesHold (generator.membersParts 1 project.methods) ↔
        ∀ method ∈ project.methods,
          ¬SilentBody method.elements ∧
            ∀ element ∈ elementsRendered method.elements, ¬element.HasSilentBody := by
    have apart : SuitesHold [.line []] := suitesHold_map_line [[]]
    rw [membersParts, suitesHold_intercalate apart, List.forall_mem_map]
    simp only [suitesHold_methodParts python]
  rw [← members]
  simp only [fileParts]
  rw [suitesHold_append, and_iff_right (suitesHold_map_line _)]
  split
  · next none =>
      rw [List.isEmpty_iff.1 none, iff_true_left (suitesHold_map_line _)]
      exact suitesHold_map_line []
  · rfl

end Generator

/--
A Python file is the lines of its parts, and all suites in these hold a statement
exactly if no method and no block that is written has a body of silent elements
alone.
-/
theorem Project.suites_holdStatement_iff
    (settings : Settings) (project : Project) :
    let parts := (Generator.make .python settings project.methods).fileParts project
    Text.ofLines (partsLines parts) = project.sourceIn .python settings ∧
      ((∀ suite ∈ partsSuites parts, suite.HoldsStatement) ↔
        ∀ method ∈ project.methods,
          ¬SilentBody method.elements ∧
            ∀ element ∈ elementsRendered method.elements, ¬element.HasSilentBody) := by
  intro parts
  constructor
  · have lines :
        partsLines parts = (Generator.make .python settings project.methods).file project :=
      Generator.partsLines_fileParts rfl rfl project
    exact congrArg Text.ofLines lines
  · exact Generator.suitesHold_fileParts rfl project

/-- A method whose only element is of a type outside the vocabulary. -/
def mysterious : Project where
  language := "python"
  methods := [{ elements := [{ type := "mystery" }] }]

theorem mysterious_silent :
    let parts := (Generator.make .python .standard mysterious.methods).fileParts mysterious
    ∃ suite ∈ partsSuites parts,
      suite = ⟨"    def MyMethod(self) -> None:", ["        # mystery"]⟩ ∧
        ¬suite.HoldsStatement := by
  decide +kernel

end Blockwright
