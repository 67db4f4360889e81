import Blockwright.Proofs.Hoisting

/-!
# Reindenting

What is written at another depth, or with levels of another width, is made of the
same lines with other spaces before them.  Such a change is a map of lines, known by
what it does to a line that is indented and to a line that is moved with its own
nesting.  Here the map is carried from these two through everything that is printed:
blocks, elements, methods and the body of a class.

A line that is indented may begin with a text of its own spaces, and what a map does
to it depends on that text.  The headers of blocks all begin at once, which every
map allows for; of a method's header that is left as a condition.
-/

namespace Blockwright

/-! ## Texts that begin at once -/

/-- The text begins at once, with something other than a space. -/
def Text.Flush (text : Text) : Prop :=
  ∃ c ∈ text.head?, c ≠ ' '

instance (text : Text) : Decidable text.Flush :=
  Option.decidableExistsMem text.head?

theorem Text.Flush.append
    {text : Text}
    (flush : text.Flush)
    (rest : Text) :
    Flush (text ++ rest) := by
  rcases flush with ⟨c, begins, solid⟩
  exact ⟨c, by simp_all, solid⟩

theorem Text.flush_iff
    (text : Text) :
    text.Flush ↔ text ≠ [] ∧ text.head? ≠ some ' ' := by
  cases text with
  | nil => simp [Flush]
  | cons c rest => simp [Flush]

theorem Template.flush_fill
    {value : Slot → Text} {text : Text} {others : Template}
    (flush : text.Flush) :
    Text.Flush (fill value (.literal text :: others)) :=
  flush.append _

namespace Language

theorem flush_doOpening
    (language : Language) :
    language.headers.doOpening.Flush := by
  cases language <;> decide

theorem flush_otherwise
    (language : Language) :
    language.headers.otherwise.Flush := by
  cases language <;> decide

theorem flush_commentMark
    (language : Language) :
    language.commentMark.Flush := by
  cases language <;> decide

end Language

namespace Outline

variable (setting : Setting) (fields : Fields)

theorem flush_blockHeader
    (kind : Block) :
    (blockHeader setting fields kind).Flush := by
  rcases setting with ⟨language, width⟩
  cases kind with
  | doWhile => exact language.flush_doOpening
  | counting | forEach | whileLoop | conditional | ifElse | ifElseIf | switch =>
      cases language
      all_goals exact Template.flush_fill (by decide)

theorem flush_secondCondition
    (language : Language) :
    (fields.fill language.headers.secondCondition).Flush := by
  cases language
  all_goals exact Template.flush_fill (by decide)

theorem flush_case
    (language : Language) :
    (fields.fill language.headers.case).Flush := by
  cases language
  all_goals exact Template.flush_fill (by decide)

end Outline

theorem Block.childDepth_nonneg
    (kind : Block) :
    0 ≤ kind.childDepth := by
  cases kind <;> decide

/-! ## Maps of lines -/

namespace Layout

/--
A map from lines with levels of a source width to lines with levels of another width,
written deeper by an offset.  It holds at some depths, and for indented texts that
begin in some way.
-/
structure Reindenting (width source : Nat) where
  offset : Int
  Within : Int → Prop
  Begins : Text → Prop
  move : Line → Line
  within_add : ∀ {depth level : Int}, Within depth → 0 ≤ level → Within (depth + level)
  begins_of_flush : ∀ {text : Text}, text.Flush → Begins text
  begins_append : ∀ {text : Text}, Begins text → ∀ rest : Text, Begins (text ++ rest)
  move_nil : move [] = []
  move_indent :
    ∀ {depth : Int} {text : Text},
      Within depth →
        Begins text →
          indent width (depth + offset) ++ text = move (indent source depth ++ text)
  move_line :
    ∀ {depth : Int} (raw : Text),
      Within depth →
        line width (depth + offset) raw = move (line source depth raw)

theorem separated_map
    {move : Line → Line}
    (empty : move [] = [])
    (blocks : List (List Line)) :
    separated (blocks.map (List.map move)) = (separated blocks).map move := by
  rw [separated_eq_intercalate, separated_eq_intercalate]
  induction blocks with
  | nil => rfl
  | cons block others ih =>
      cases others with
      | nil => simp
      | cons second more =>
          simp only [List.map_cons] at ih ⊢
          rw [List.intercalate_cons_cons, List.intercalate_cons_cons, ih]
          simp [empty]

namespace Reindenting

variable {width source : Nat} (motion : Reindenting width source)
variable {depth : Int} (within : motion.Within depth)

include within

theorem move_flush
    {text : Text}
    (flush : text.Flush) :
    indent width (depth + motion.offset) ++ text = motion.move (indent source depth ++ text) :=
  motion.move_indent within (motion.begins_of_flush flush)

theorem move_lines
    (text : Text) :
    lines width (depth + motion.offset) text = (lines source depth text).map motion.move := by
  rw [lines, lines, List.map_map]
  apply List.map_congr_left
  intro raw _
  exact motion.move_line raw within

theorem move_comment
    {mark : Text}
    (flush : mark.Flush)
    (text : Text) :
    comment mark width (depth + motion.offset) text =
      motion.move (comment mark source depth text) := by
  simp only [comment, List.append_assoc]
  exact motion.move_flush within (flush.append _)

theorem move_closing
    (trailer : Option Text) :
    closing (indent width (depth + motion.offset)) trailer =
      motion.move (closing (indent source depth) trailer) := by
  simp only [closing]
  split
  · simp only [List.append_assoc]
    exact motion.move_flush within (Text.Flush.append (by decide) _)
  · exact motion.move_flush within (by decide)

end Reindenting

end Layout

/-! ## Blocks -/

namespace Outline

variable (language : Language) (fields : Fields)
variable {width source : Nat} (motion : Layout.Reindenting width source)
variable {depth : Int} (within : motion.Within depth)

include within

theorem move_opening
    {header : Text}
    (begins : motion.Begins header) :
    Setting.opening ⟨language, width⟩ (depth + motion.offset) header =
      (Setting.opening ⟨language, source⟩ depth header).map motion.move := by
  have brace := motion.move_flush within (by decide : Text.Flush ['{'])
  have moved (rest : Text) := motion.move_indent within (motion.begins_append begins rest)
  simp only [Setting.opening, Setting.indent, List.append_assoc]
  split
  · rw [motion.move_indent within begins, brace]
    rfl
  · rw [moved]
    rfl
  · rw [moved]
    rfl

theorem move_ending
    (trailer : Option Text)
    {headers : List Text}
    (flush : ∀ header ∈ headers, header.Flush) :
    Setting.ending ⟨language, width⟩ (depth + motion.offset) trailer headers =
      (Setting.ending ⟨language, source⟩ depth trailer headers).map motion.move := by
  have moved {text : Text} (begins : text.Flush) := motion.move_flush within begins
  induction headers with
  | nil =>
      simp only [Setting.ending]
      split
      · exact congrArg (fun line => [line]) (motion.move_closing within trailer)
      · rfl
  | cons header others ih =>
      have first := flush header List.mem_cons_self
      have rest := ih fun other member => flush other (List.mem_cons_of_mem _ member)
      have filler :
          Setting.filler ⟨language, width⟩ (depth + 1 + motion.offset) =
            motion.move (Setting.filler ⟨language, source⟩ (depth + 1)) :=
        motion.move_line _ (motion.within_add within Int.one_nonneg)
      simp only [Setting.ending, rest, List.map_append, Setting.indent, List.append_assoc]
      congr 1
      split
      · rw [moved (by decide), moved first, moved (by decide)]
        rfl
      · rw [moved (Text.Flush.append (by decide) _)]
        rfl
      · rw [moved (first.append _), Int.add_right_comm, filler]
        rfl

theorem move_blockOpening
    (kind : Block) :
    blockOpening ⟨language, width⟩ fields (depth + motion.offset) kind =
      (blockOpening ⟨language, source⟩ fields depth kind).map motion.move := by
  have header :=
    move_opening language motion within
      (motion.begins_of_flush (flush_blockHeader ⟨language, width⟩ fields kind))
  have sameHeader :
      blockHeader ⟨language, source⟩ fields kind = blockHeader ⟨language, width⟩ fields kind :=
    rfl
  have deeper := motion.within_add within Int.one_nonneg
  simp only [blockOpening, header, List.map_append, sameHeader]
  congr 1
  cases kind with
  | switch =>
      simp only [caseOpening]
      rw [Int.add_right_comm]
      split
      · exact motion.move_lines deeper _
      · have begins := motion.begins_of_flush (flush_case fields language)
        exact move_opening language motion deeper begins
  | counting | forEach | whileLoop | doWhile | conditional | ifElse | ifElseIf => rfl

theorem move_blockEnding
    (kind : Block) :
    blockEnding ⟨language, width⟩ fields (depth + motion.offset) kind =
      (blockEnding ⟨language, source⟩ fields depth kind).map motion.move := by
  have alone (trailer : Option Text) :=
    move_ending language motion within trailer (List.forall_mem_nil _)
  have inside {level : Int} (below : 0 ≤ level) (text : Text) :
      Layout.lines width (depth + motion.offset + level) text =
        (Layout.lines source (depth + level) text).map motion.move := by
    rw [Int.add_right_comm]
    exact motion.move_lines (motion.within_add within below) text
  have otherwise := language.flush_otherwise
  have second := flush_secondCondition fields language
  cases kind with
  | counting | forEach | whileLoop | conditional => exact alone _
  | doWhile =>
      simp only [blockEnding]
      split
      · exact alone _
      · rw [inside (by decide), inside (by decide), List.map_append]
  | ifElse => exact move_ending language motion within _ (by simpa using otherwise)
  | ifElseIf => exact move_ending language motion within _ (by simpa using ⟨second, otherwise⟩)
  | switch =>
      simp only [blockEnding]
      split
      · rw [inside (by decide), inside (by decide), alone]
        simp only [List.map_append]
      · rw [Int.add_right_comm]
        exact
          move_ending language motion (motion.within_add within Int.one_nonneg) _
            (List.forall_mem_singleton.2 (by decide))

end Outline

/-! ## Elements, methods and classes -/

namespace Generator

variable (language : Language) {settings sourceSettings : Settings} (hoisted : List Utility)
variable (motion : Layout.Reindenting settings.indentWidth sourceSettings.indentWidth)
variable (sameHoists : language.hoists settings = language.hoists sourceSettings)

theorem move_comment
    {depth : Int}
    (within : motion.Within depth)
    (text : Text) :
    comment ⟨language, settings, hoisted⟩ (depth + motion.offset) text =
      motion.move (comment ⟨language, sourceSettings, hoisted⟩ depth text) :=
  motion.move_comment within language.flush_commentMark text

theorem move_definition
    {depth : Int}
    (within : motion.Within depth)
    (utility : Utility) :
    definition ⟨language, settings, hoisted⟩ (depth + motion.offset) utility =
      (definition ⟨language, sourceSettings, hoisted⟩ depth utility).map motion.move :=
  motion.move_lines within _

theorem move_pass
    {depth : Int}
    (within : motion.Within depth) :
    indent ⟨language, settings, hoisted⟩ (depth + motion.offset) ++ "pass" =
      motion.move (indent ⟨language, sourceSettings, hoisted⟩ depth ++ "pass") :=
  motion.move_flush within (by decide)

include sameHoists in
/-- The lines of an element are moved one by one. -/
theorem move_elementLines
    {depth : Int}
    (within : motion.Within depth)
    (element : Element) :
    elementLines ⟨language, settings, hoisted⟩ (depth + motion.offset) element =
      (elementLines ⟨language, sourceSettings, hoisted⟩ depth element).map motion.move := by
  let generator : Generator := ⟨language, settings, hoisted⟩
  let source : Generator := ⟨language, sourceSettings, hoisted⟩
  induction element using Element.childInduction generalizing depth with
  | step element ih =>
      have moved := element.outline_eq generator.setting (depth + motion.offset)
      have outline := element.outline_eq source.setting depth
      rcases tag : element.tag? with _ | (kind | kind | kind)
      · rw [tag] at moved outline
        rw [elementLines, elementLines, moved, outline, render_singleton, render_singleton]
        exact congrArg (fun line => [line]) (move_comment language hoisted motion within _)
      · rw [tag] at moved outline
        rw [elementLines, elementLines, moved, outline]
        simp only [Outline.Setting.lines, render_map_line]
        exact motion.move_lines within _
      · have opening :=
          Outline.move_blockOpening language (element.fields language) motion within kind
        have ending :=
          Outline.move_blockEnding language (element.fields language) motion within kind
        have deeper := motion.within_add within kind.childDepth_nonneg
        have filler := move_pass language hoisted motion deeper
        have children :
            element.childList.flatMap
                (generator.elementLines (depth + kind.childDepth + motion.offset)) =
              (element.childList.flatMap
                (source.elementLines (depth + kind.childDepth))).map motion.move := by
          rw [List.map_flatMap]
          apply List.flatMap_congr
          intro child member
          exact ih child member deeper
        rw [generator.elementLines_of_block _ tag, source.elementLines_of_block _ tag,
          List.map_append, List.map_append, Int.add_right_comm, children]
        refine congrArg₂ (· ++ ·) (congrArg₂ (· ++ ·) opening ?_) ending
        split
        · exact congrArg (fun line => [line]) filler
        · rfl
      · rw [tag] at moved outline
        rw [elementLines, elementLines, moved, outline, render_singleton, render_singleton]
        by_cases hoisting : language.hoists sourceSettings = true
        · simp only [entryLines, hoists, sameHoists, hoisting, if_true]
          exact congrArg (fun line => [line]) (move_comment language hoisted motion within _)
        · simp only [entryLines, hoists, sameHoists, hoisting]
          exact move_definition language hoisted motion within kind

include sameHoists in
/-- The lines of a method are moved one by one if those above its body are. -/
theorem move_methodLines
    {depth : Int}
    (within : motion.Within depth)
    {method : Method}
    (header : motion.Begins (methodHeader ⟨language, settings, hoisted⟩ method))
    (preamble :
      ∀ text ∈ methodPreamble ⟨language, settings, hoisted⟩ method,
        indent ⟨language, settings, hoisted⟩ (depth + motion.offset) ++ text =
          motion.move (indent ⟨language, sourceSettings, hoisted⟩ depth ++ text)) :
    methodLines ⟨language, settings, hoisted⟩ (depth + motion.offset) method =
      (methodLines ⟨language, sourceSettings, hoisted⟩ depth method).map motion.move := by
  let generator : Generator := ⟨language, settings, hoisted⟩
  let source : Generator := ⟨language, sourceSettings, hoisted⟩
  have deeper := motion.within_add within Int.one_nonneg
  have opening := Outline.move_opening language motion within header
  have ending := Outline.move_ending language motion within none (List.forall_mem_nil _)
  have filler := move_pass language hoisted motion deeper
  have above :
      (generator.methodPreamble method).map (generator.indent (depth + motion.offset) ++ ·) =
        ((generator.methodPreamble method).map (source.indent depth ++ ·)).map motion.move := by
    rw [List.map_map]
    exact List.map_congr_left preamble
  have elements :
      method.elements.flatMap (generator.elementLines (depth + 1 + motion.offset)) =
        (method.elements.flatMap (source.elementLines (depth + 1))).map motion.move := by
    rw [List.map_flatMap]
    apply List.flatMap_congr
    intro element _
    exact move_elementLines language hoisted motion sameHoists deeper element
  rw [methodLines_eq generator, methodLines_eq source, List.map_append, List.map_append,
    List.map_append, Int.add_right_comm, elements, above]
  refine congrArg₂ (· ++ ·) (congrArg₂ (· ++ ·) (congrArg₂ (· ++ ·) rfl opening) ?_) ending
  split
  · exact congrArg (fun line => [line]) filler
  · rfl

include sameHoists in
theorem move_members
    {depth : Int}
    (within : motion.Within depth)
    {methods : List Method}
    (headers :
      ∀ method ∈ methods, motion.Begins (methodHeader ⟨language, settings, hoisted⟩ method))
    (preambles :
      ∀ method ∈ methods, ∀ text ∈ methodPreamble ⟨language, settings, hoisted⟩ method,
        indent ⟨language, settings, hoisted⟩ (depth + motion.offset) ++ text =
          motion.move (indent ⟨language, sourceSettings, hoisted⟩ depth ++ text)) :
    members ⟨language, settings, hoisted⟩ (depth + motion.offset) methods =
      (members ⟨language, sourceSettings, hoisted⟩ depth methods).map motion.move := by
  rw [members, members, ← Layout.separated_map motion.move_nil]
  simp only [List.map_append, List.map_map]
  congr 2
  · apply List.map_congr_left
    intro method member
    exact
      move_methodLines language hoisted motion sameHoists within (headers method member)
        (preambles method member)
  · apply List.map_congr_left
    intro utility _
    exact move_definition language hoisted motion within utility

end Generator

end Blockwright
