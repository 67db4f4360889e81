import Blockwright.Proofs.Hoisting
import Blockwright.Proofs.LineBreaks.Texts

/-!
# Line breaks in headers

Texts that are moved to a depth are cut at their line feeds and comments are
flattened, but a header is laid out as it is.  So a line feed in a property that
stands in a header ends up inside a line of the file, and what follows it begins
at the margin.

The condition is exact.  The lines of an element hold no line feed just if no
property in a header of a rendered block does, and the lines of a file just if
beside that the namespace, the class name and the texts of method headers hold
none.  Then, and only then, the lines of the text are the lines as they were
indented.
-/

namespace Blockwright

namespace Layout

/-- Lines none of which holds a line feed. -/
def Unbroken (lines : List Line) : Prop :=
  ∀ line ∈ lines, '\n' ∉ line

instance (lines : List Line) : Decidable (Unbroken lines) :=
  inferInstanceAs (Decidable (∀ line ∈ lines, '\n' ∉ line))

@[simp]
theorem unbroken_nil :
    Unbroken [] :=
  List.forall_mem_nil _

@[simp]
theorem unbroken_cons
    (line : Line) (others : List Line) :
    Unbroken (line :: others) ↔ '\n' ∉ line ∧ Unbroken others :=
  List.forall_mem_cons

@[simp]
theorem unbroken_append
    (first second : List Line) :
    Unbroken (first ++ second) ↔ Unbroken first ∧ Unbroken second :=
  List.forall_mem_append

theorem unbroken_flatMap
    {α : Type} (items : List α) (write : α → List Line) :
    Unbroken (items.flatMap write) ↔ ∀ item ∈ items, Unbroken (write item) :=
  List.forall_mem_flatMap

theorem unbroken_separated
    (blocks : List (List Line)) :
    Unbroken (separated blocks) ↔ ∀ block ∈ blocks, Unbroken block := by
  fun_induction separated blocks with
  | case1 => simp
  | case2 block => simp
  | case3 block others _ ih => simp [ih]

@[simp]
theorem unbroken_lines
    (width : Nat) (depth : Int) (text : Text) :
    Unbroken (lines width depth text) :=
  fun _ member => Text.newline_not_mem_of_mem_lines member

@[simp]
theorem newline_not_mem_indent
    (width : Nat) (depth : Int) :
    '\n' ∉ indent width depth := by
  simp [indent, List.mem_replicate]

theorem newline_not_mem_comment
    {mark : Text}
    (unbroken : '\n' ∉ mark)
    (width : Nat) (depth : Int) (text : Text) :
    '\n' ∉ comment mark width depth text := by
  simp [comment, unbroken, Text.newline_not_mem_flatten]

theorem newline_mem_closing_iff
    (width : Nat) (depth : Int) (trailer : Option Text) :
    '\n' ∈ closing (indent width depth) trailer ↔ ∃ text ∈ trailer, '\n' ∈ text := by
  simp only [closing]
  split
  · simp
  · next other =>
      rcases trailer with _ | (_ | ⟨c, rest⟩)
      · simp
      · simp
      · exact absurd rfl (other c rest)

end Layout

open Layout

/-! ## Headers of blocks -/

/--
The properties of a block that stand in its headers.  The condition of a Python loop
that tests last and the case of a switch in braces are moved like statements.
-/
def Language.headerProperties (language : Language) (kind : Block) : List Text :=
  match kind, language.style with
  | .doWhile, .indentation => []
  | .switch, .braces _ => language.headers.switch.rawProperties
  | kind, _ => language.rawProperties (.block kind)

/-- No property in a header of the element, if it is a block, holds a line feed. -/
def Element.HeadersUnbroken (language : Language) (element : Element) : Prop :=
  ∀ kind ∈ element.block?, ∀ property ∈ language.headerProperties kind,
    '\n' ∉ (element.fields language).text property

instance (language : Language) (element : Element) :
    Decidable (element.HeadersUnbroken language) :=
  Option.decidableForallMem element.block?

namespace Language

theorem unbroken_templates
    (language : Language) (kind : Block) :
    ∀ template ∈ language.headers.templates kind, ∀ piece ∈ template, piece.Unbroken := by
  cases language <;> cases kind <;> decide

/-- The slots of a counting loop's header: its bounds and step, or its range. -/
theorem slots_counting
    (language : Language) :
    language.headers.counting.slots =
      match language with
      | .python => [.field "variable", .field "range"]
      | _ => [
          .field "variable", .field "start", .field "variable", .field "end", .field "step"] := by
  cases language <;> rfl

theorem newline_not_mem_doOpening
    (language : Language) :
    '\n' ∉ language.headers.doOpening := by
  cases language <;> decide

theorem newline_not_mem_otherwise
    (language : Language) :
    '\n' ∉ language.headers.otherwise := by
  cases language <;> decide

theorem newline_not_mem_commentMark
    (language : Language) :
    '\n' ∉ language.commentMark := by
  cases language <;> decide

end Language

namespace Fields

variable (fields : Fields)

theorem newline_mem_stepText_iff :
    '\n' ∈ fields.stepText ↔
      '\n' ∈ fields.text "variable" ∨ '\n' ∈ fields.text "increment" := by
  have sign : '\n' ∉ "++".toList := by decide
  have assignment : '\n' ∉ " += ".toList := by decide
  simp only [stepText]
  split
  · next one =>
      have unbroken : '\n' ∉ fields.text "increment" := by
        rw [one]
        decide
      simp only [List.mem_append, sign, unbroken]
  · simp only [List.mem_append, assignment, or_false]

theorem newline_mem_rangeText_iff :
    '\n' ∈ fields.rangeText ↔
      '\n' ∈ fields.text "start" ∨ '\n' ∈ fields.text "end" ∨ '\n' ∈ fields.text "increment" := by
  have comma : '\n' ∉ ", ".toList := by decide
  have around (inner : Text) : '\n' ∈ "range(".toList ++ inner ++ ")".toList ↔ '\n' ∈ inner := by
    simp
  unfold rangeText
  simp only [around]
  split
  · next one =>
      have unbroken : '\n' ∉ fields.text "increment" := by
        rw [one]
        decide
      rw [List.mem_append, List.mem_append, or_iff_left comma, or_iff_left unbroken]
  · simp only [List.mem_append, comma, or_false, or_assoc]

/-- The header of a counting loop shows four properties, in whatever texts they are joined. -/
theorem newline_mem_counting_iff
    (language : Language) :
    '\n' ∈ language.headers.counting.fill (fields.slotWith fields.loopTexts) ↔
      ∃ property ∈ language.rawProperties (.block .counting), '\n' ∈ fields.text property := by
  have thrice {counter start bound step : Prop} :
      counter ∨ start ∨ counter ∨ bound ∨ counter ∨ step ↔ counter ∨ start ∨ bound ∨ step := by
    tauto
  have field (name : Text) (notStep : ("step" : Text) ≠ name) (notRange : ("range" : Text) ≠ name) :
      fields.slotWith fields.loopTexts (.field name) = fields.text name :=
    slotWith_loopTexts_field notStep notRange
  have counter := field "variable" (by decide) (by decide)
  have start := field "start" (by decide) (by decide)
  have bound := field "end" (by decide) (by decide)
  have step : fields.slotWith fields.loopTexts (.field "step") = fields.stepText := rfl
  have range : fields.slotWith fields.loopTexts (.field "range") = fields.rangeText := rfl
  rw [Template.newline_mem_fill_iff (language.unbroken_templates .counting _ List.mem_cons_self),
    language.slots_counting]
  split
  all_goals
    simp only [Language.rawProperties, List.mem_cons, List.not_mem_nil, or_false,
      exists_eq_or_imp, exists_eq_left, counter, start, bound, step, range,
      newline_mem_stepText_iff, newline_mem_rangeText_iff]
  · exact thrice

theorem newline_not_mem_fill_iff
    {template : Template}
    (unbroken : ∀ piece ∈ template, piece.Unbroken) :
    '\n' ∉ fields.fill template ↔
      ∀ property ∈ template.rawProperties, '\n' ∉ fields.text property := by
  rw [newline_mem_fill_iff fields unbroken]
  simp only [not_exists, not_and]

end Fields

/-! ## Blocks -/

namespace Outline

variable (setting : Setting) (depth : Int)

theorem Setting.newline_not_mem_filler :
    '\n' ∉ setting.filler depth :=
  Text.newline_not_mem_line (by decide) setting.width depth

theorem Setting.unbroken_opening_iff
    (header : Text) :
    Unbroken (setting.opening depth header) ↔ '\n' ∉ header := by
  simp only [opening, indent]
  split
  all_goals simp

theorem Setting.unbroken_ending_iff
    (trailer : Option Text) (headers : List Text) :
    Unbroken (setting.ending depth trailer headers) ↔
      (∀ header ∈ headers, '\n' ∉ header) ∧
        (setting.language.style = .indentation ∨ ∀ text ∈ trailer, '\n' ∉ text) := by
  induction headers with
  | nil =>
      simp only [ending]
      split
      · next kind style =>
          simp [style, indent, newline_mem_closing_iff]
      · next style => simp [style]
  | cons header others ih =>
      have filler := setting.newline_not_mem_filler (depth + 1)
      rw [ending, unbroken_append, ih, List.forall_mem_cons, and_assoc]
      refine and_congr_left fun _ => ?_
      simp only [indent]
      split
      all_goals simp [filler]

variable (fields : Fields)

/-- The lines of a block around its children are broken by the properties in its headers. -/
theorem unbroken_block_iff
    (kind : Block) :
    Unbroken (blockOpening setting fields depth kind) ∧
        Unbroken (blockEnding setting fields depth kind) ↔
      ∀ property ∈ setting.language.headerProperties kind, '\n' ∉ fields.text property := by
  have filled {template : Template}
      (member : template ∈ setting.language.headers.templates kind) :
      '\n' ∉ fields.fill template ↔
        ∀ property ∈ template.rawProperties, '\n' ∉ fields.text property :=
    fields.newline_not_mem_fill_iff (setting.language.unbroken_templates kind template member)
  have otherwise := setting.language.newline_not_mem_otherwise
  have opening (header : Text) := setting.unbroken_opening_iff depth header
  have alone : Unbroken (setting.ending depth none []) := by
    simp [setting.unbroken_ending_iff]
  cases kind with
  | counting =>
      have header := not_congr (fields.newline_mem_counting_iff setting.language)
      simp only [not_exists, not_and] at header
      simp only [blockOpening, blockHeader, blockEnding, unbroken_append, opening, header,
        unbroken_nil, alone, and_true]
      rfl
  | forEach | whileLoop | conditional =>
      have header := filled List.mem_cons_self
      simp only [blockOpening, blockHeader, blockEnding, unbroken_append, opening, header,
        unbroken_nil, alone, and_true, Language.headerProperties, Language.rawProperties,
        Headers.templates, List.flatMap_singleton]
  | doWhile =>
      have trailer := filled List.mem_cons_self
      have doOpening := setting.language.newline_not_mem_doOpening
      simp only [blockOpening, blockHeader, blockEnding, unbroken_append, opening, doOpening,
        not_false_eq_true, unbroken_nil, true_and, Language.headerProperties]
      cases style : setting.language.style with
      | braces kind =>
          simp [setting.unbroken_ending_iff, style, trailer, Language.rawProperties,
            Headers.templates]
      | indentation => simp
  | ifElse =>
      have header := filled List.mem_cons_self
      simp [blockOpening, blockHeader, blockEnding, opening, header, otherwise,
        setting.unbroken_ending_iff, Language.headerProperties, Language.rawProperties,
        Headers.templates]
  | ifElseIf =>
      have first := filled List.mem_cons_self
      have second := filled (List.mem_cons_of_mem _ List.mem_cons_self)
      simp [blockOpening, blockHeader, blockEnding, opening, first, second, otherwise,
        setting.unbroken_ending_iff, Language.headerProperties, Language.rawProperties,
        Headers.templates, or_imp, forall_and]
  | switch =>
      have header := filled List.mem_cons_self
      have case := filled (List.mem_cons_of_mem _ List.mem_cons_self)
      simp only [blockOpening, blockHeader, blockEnding, caseOpening, unbroken_append, opening,
        header, Language.headerProperties]
      cases style : setting.language.style with
      | braces kind => simp [alone]
      | indentation =>
          simp [setting.unbroken_opening_iff, setting.unbroken_ending_iff, style, case,
            Language.rawProperties, Headers.templates, or_imp, forall_and]

end Outline

/-! ## Elements -/

theorem Element.headersUnbroken_of_leaf
    {language : Language} {element : Element}
    (leaf : element.block? = none) :
    element.HeadersUnbroken language := by
  intro kind block
  rw [leaf] at block
  exact absurd block (by simp)

namespace Generator

variable (generator : Generator)

theorem newline_not_mem_comment
    (depth : Int) (text : Text) :
    '\n' ∉ generator.comment depth text :=
  Layout.newline_not_mem_comment generator.language.newline_not_mem_commentMark _ depth text

/-- The lines of an element are broken by the headers of the blocks that are written for it. -/
theorem unbroken_elementLines_iff
    (depth : Int) (element : Element) :
    Unbroken (generator.elementLines depth element) ↔
      ∀ inner ∈ element.rendered, inner.HeadersUnbroken generator.language := by
  induction element using Element.childInduction generalizing depth with
  | step element ih =>
      have outline := element.outline_eq generator.setting depth
      have leaf (notBlock : element.block? = none)
          (written : Unbroken (generator.elementLines depth element))
          (rendered : element.rendered = [element]) :
          Unbroken (generator.elementLines depth element) ↔
            ∀ inner ∈ element.rendered, inner.HeadersUnbroken generator.language := by
        rw [rendered, List.forall_mem_singleton]
        exact iff_of_true written (Element.headersUnbroken_of_leaf notBlock)
      rcases tag : element.tag? with _ | (kind | kind | kind)
      · apply leaf
        · simp [Element.block?, tag]
        · simp only [tag] at outline
          rw [elementLines, outline, render_singleton]
          simp [entryLines, newline_not_mem_comment]
        · simp [element.rendered_eq, tag]
      · apply leaf
        · simp [Element.block?, tag, Tag.block?]
        · simp only [tag] at outline
          rw [elementLines, outline]
          simp only [Outline.Setting.lines, render_map_line]
          exact unbroken_lines _ depth _
        · simp [element.rendered_eq, tag]
      · have block : element.block? = some kind := (element.block?_eq_some_iff kind).2 tag
        have around :=
          Outline.unbroken_block_iff generator.setting depth (element.fields generator.language)
            kind
        have own :
            element.HeadersUnbroken generator.language ↔
              ∀ property ∈ generator.language.headerProperties kind,
                '\n' ∉ (element.fields generator.language).text property := by
          simp [Element.HeadersUnbroken, block]
        have children :
            Unbroken
                (if generator.language = .python ∧ kind ≠ .doWhile ∧ element.childList = [] then
                  [generator.indent (depth + kind.childDepth) ++ "pass"]
                else
                  element.childList.flatMap
                    (generator.elementLines (depth + kind.childDepth))) ↔
              ∀ child ∈ element.childList, ∀ inner ∈ child.rendered,
                inner.HeadersUnbroken generator.language := by
          split
          · next empty => simp [empty.2.2, indent]
          · rw [unbroken_flatMap]
            exact forall₂_congr fun child member => ih child member _
        rw [generator.elementLines_of_block depth tag, unbroken_append, unbroken_append, children,
          and_right_comm, around, element.rendered_eq, tag]
        simp only
        rw [List.forall_mem_cons, own, List.forall_mem_flatMap]
        rfl
      · apply leaf
        · simp [Element.block?, tag, Tag.block?]
        · simp only [tag] at outline
          rw [elementLines, outline, render_singleton]
          simp only [entryLines]
          split
          · simp [newline_not_mem_comment]
          · exact unbroken_lines _ depth _
        · simp [element.rendered_eq, tag]

end Generator

end Blockwright
