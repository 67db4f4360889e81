import Blockwright.Proofs.Gaps

/-!
# Jumps

A `break` or a `continue` names no block.  Which one it leaves or resumes is decided by the
clauses that a target language finds around it, so the outline around a gap is taken apart
into those clauses here, and the rule of each language is applied to their headers.

Most blocks open one clause in every language, with a header of the same kind.  Two do not:
Python writes a switch as a choice that no `break` leaves, and a loop that tests last as a
loop without a test whose condition stands at the end of the body, where `continue` passes
it by.  These are the only places at which the languages disagree.
-/

namespace Blockwright

/-- The statements that go on elsewhere in a block around them. -/
inductive Jump where
  /-- Go on behind a block. -/
  | leave
  /-- Go on with the next round of a loop. -/
  | resume
  deriving DecidableEq, Repr

namespace Jump

/-- The statement that a jump is. -/
def statement : Jump → Statement
  | .leave => .breakLoop
  | .resume => .continueLoop

/-- The text of a jump in a language. -/
def text (language : Language) : Jump → Text
  | .leave => if language = .python then "break" else "break;"
  | .resume => if language = .python then "continue" else "continue;"

/-- A jump is written on one line. -/
theorem outline_eq
    (setting : Outline.Setting) (depth : Int)
    (jump : Jump) (element : Element) :
    ({ element with type := jump.statement.name } : Element).outline setting depth =
      [.line (setting.indent depth ++ jump.text setting.language)] := by
  have tag :
      ({ element with type := jump.statement.name } : Element).tag? =
        some (.statement jump.statement) := by
    change Tag.ofName? jump.statement.name = _
    cases jump <;> decide
  have filled (fields : Fields) :
      fields.fill (setting.language.statement jump.statement) = jump.text setting.language := by
    rcases setting with ⟨language, width⟩
    cases language <;> cases jump <;> rfl
  have flush (language : Language) :
      List.splitOn '\n' (jump.text language) = [jump.text language] ∧
        jump.text language ≠ [] ∧ (jump.text language).head? ≠ some ' ' := by
    cases language <;> cases jump <;> decide
  obtain ⟨single, nonempty, begins⟩ := flush setting.language
  rw [Element.outline_eq, tag]
  simp only [filled, Outline.Setting.lines, Layout.lines, single, List.map_cons, List.map_nil,
    Layout.line_of_flush nonempty begins]
  rfl

end Jump

namespace Outline

/-- A clause around a place in an outline. -/
structure OpenClause where
  depth : Int
  header : Template
  /-- What follows the last line of the block. -/
  trailer : Option Template
  /-- The texts that fill the slots of the header and of the trailer. -/
  value : Slot → Text
  /-- The clauses of the same block that come later. -/
  later : List (Layout.Clause Entry)

/-- What stands around a place in an outline, up to the next clause or including it. -/
inductive Frame where
  | beside (before after : List Entry)
  | clause (opened : OpenClause)

/-- The entries of a frame around other entries. -/
def Frame.write (setting : Setting) (inner : List Entry) : Frame → List Entry
  | .beside before after => before ++ inner ++ after
  | .clause opened =>
      setting.clauses opened.depth (opened.trailer.map (Template.fill opened.value))
        (⟨opened.header.fill opened.value, inner⟩ :: opened.later)

/-- The entries of frames around other entries, the innermost frame first. -/
def surround (setting : Setting) (frames : List Frame) (inner : List Entry) : List Entry :=
  frames.foldl (Frame.write setting) inner

@[simp]
theorem surround_append
    (setting : Setting) (frames outer : List Frame) (inner : List Entry) :
    surround setting (frames ++ outer) inner =
      surround setting outer (surround setting frames inner) :=
  List.foldl_append

@[simp]
theorem surround_beside
    (setting : Setting) (before after inner : List Entry) :
    surround setting [.beside before after] inner = before ++ inner ++ after :=
  rfl

/-- The frames of a block around its children, the innermost first. -/
def around (setting : Setting) (fields : Fields) (depth : Int) (kind : Block) : List Frame :=
  let headers := setting.language.headers
  let opened (header : Template) (later : List (Layout.Clause Entry)) : Frame :=
    .clause ⟨depth, header, none, fields.slot, later⟩
  match kind with
  | .counting =>
      [.clause ⟨depth, headers.counting, none, fields.slotWith fields.loopTexts, []⟩]
  | .forEach => [opened headers.forEach []]
  | .whileLoop => [opened headers.whileLoop []]
  | .doWhile =>
      match setting.language.style with
      | .braces _ =>
          [.clause
            ⟨depth, [.literal headers.doOpening], some headers.doClosing, fields.slot, []⟩]
      | .indentation =>
          [.beside []
              (setting.lines (depth + 1) (fields.fill headers.doClosing) ++
                setting.lines (depth + 2) "break"),
            opened [.literal headers.doOpening] []]
  | .conditional => [opened headers.conditional []]
  | .ifElse => [opened headers.conditional [⟨headers.otherwise, []⟩]]
  | .ifElseIf =>
      [opened headers.firstCondition
        [⟨fields.fill headers.secondCondition, []⟩, ⟨headers.otherwise, []⟩]]
  | .switch =>
      match setting.language.style with
      | .braces _ =>
          [.beside (setting.lines (depth + 1) (fields.fill headers.case))
              (setting.lines (depth + 2) "break;" ++ setting.lines (depth + 1) "default:" ++
                setting.lines (depth + 2) "break;"),
            opened headers.switch []]
      | .indentation =>
          [.clause ⟨depth + 1, headers.case, none, fields.slot, [⟨"case _", []⟩]⟩,
            opened headers.switch []]

/-- A block is its children inside its frames. -/
theorem block_eq_surround
    (setting : Setting) (fields : Fields) (depth : Int) (body : List Entry) (kind : Block) :
    block setting fields depth body kind =
      surround setting (around setting fields depth kind) body := by
  have literal (text : Text) : Template.fill fields.slot [.literal text] = text :=
    List.append_nil text
  cases kind with
  | counting | forEach | whileLoop | conditional | ifElse | ifElseIf => rfl
  | doWhile =>
      simp only [block, doWhile, around]
      cases setting.language.style with
      | braces kind => simp [surround, Frame.write, literal, Fields.fill]
      | indentation => simp [surround, Frame.write, literal, Fields.fill]
  | switch =>
      simp only [block, switch, around]
      cases setting.language.style with
      | braces kind => simp [surround, Frame.write, Fields.fill]
      | indentation => simp [surround, Frame.write, Fields.fill]

end Outline

/-! ## The rules of the languages -/

/-- The words that open a loop. -/
def Language.loopKeywords : Language → List Text
  | .csharp => ["for", "foreach", "while", "do"]
  | .java => ["for", "while", "do"]
  | .javascript => ["for", "while", "do"]
  | .python => ["for", "while"]

/-- Whether a jump goes to a block that a word opens, if it is the innermost such block. -/
def Language.binds (language : Language) (jump : Jump) (keyword : Text) : Bool :=
  language.loopKeywords.contains keyword ||
    (jump == .leave && language != .python && keyword == "switch".toList)

namespace Outline

/-- The word that opens a clause. -/
def OpenClause.keyword (opened : OpenClause) : Text :=
  (opened.header.fill opened.value).takeWhile Char.isAlpha

/-- Where a loop that is resumed goes on: behind its body if it tests last, else at its header. -/
def OpenClause.resumption (opened : OpenClause) : Template :=
  if opened.keyword = "do" then opened.trailer.getD [] else opened.header

/-- Whether a jump goes to the block of a frame. -/
def Frame.binds (language : Language) (jump : Jump) : Frame → Bool
  | .beside _ _ => false
  | .clause opened => language.binds jump opened.keyword

/-- Whether the condition is evaluated where the loop of a frame is resumed. -/
def Frame.retests : Frame → Bool
  | .beside _ _ => false
  | .clause opened => opened.resumption.slots.contains (.field "condition")

end Outline

namespace Block

/-- Whether a block is a loop. -/
def isLoop : Block → Bool
  | .counting => true
  | .forEach => true
  | .whileLoop => true
  | .doWhile => true
  | _ => false

/-- Whether a jump goes to a block in a language, if it is the innermost such block. -/
def binds (language : Language) (jump : Jump) (kind : Block) : Bool :=
  kind.isLoop || (jump == .leave && language != .python && kind == .switch)

/-- Whether a loop that is resumed in a language evaluates a condition before the next round. -/
def retests (language : Language) (kind : Block) : Bool :=
  kind == .whileLoop || (kind == .doWhile && language != .python)

/-- Two languages part at a `break` just if the innermost block that it may leave is a switch. -/
theorem findIdx?_binds_eq_iff
    (first second : Language) (kinds : List Block) :
    kinds.findIdx? (Block.binds first .leave) = kinds.findIdx? (Block.binds second .leave) ↔
      kinds.find? (fun kind => kind.isLoop || kind == .switch) ≠ some .switch ∨
        (first = .python ↔ second = .python) := by
  have further (kinds others : Option Nat) :
      kinds.map (· + 1) = others.map (· + 1) ↔ kinds = others :=
    Option.map_inj_right fun _ _ => Nat.succ.inj
  have apart (others : Option Nat) : others.map (· + 1) ≠ some 0 := by
    cases others <;> simp
  induction kinds with
  | nil => simp
  | cons kind rest ih =>
      cases kind with
      | counting | forEach | whileLoop | doWhile => simp [List.findIdx?_cons, binds, isLoop]
      | conditional | ifElse | ifElseIf =>
          simpa [List.findIdx?_cons, binds, isLoop, further] using ih
      | switch =>
          by_cases firstPython : first = .python <;> by_cases secondPython : second = .python
          · simp [firstPython, secondPython]
          · simp [List.findIdx?_cons, binds, isLoop, firstPython, secondPython, apart]
          · simp [List.findIdx?_cons, binds, isLoop, firstPython, secondPython,
              (apart _).symm]
          · simp [List.findIdx?_cons, binds, isLoop, firstPython, secondPython]

end Block

namespace Outline

variable (setting : Setting) (fields : Fields) (depth : Int)

/-- A jump goes to a clause of a block just if it goes to the block. -/
theorem any_binds_around
    (jump : Jump) (kind : Block) :
    (around setting fields depth kind).any (Frame.binds setting.language jump) =
      kind.binds setting.language jump := by
  -- Every header begins with text of its own, so its word does not depend on the properties.
  rcases setting with ⟨language, width⟩
  cases language <;> cases jump <;> cases kind <;> rfl

theorem find?_binds_around
    (kind : Block) :
    ((around setting fields depth kind).find? (Frame.binds setting.language .resume)).map
        Frame.retests =
      ([kind].find? Block.isLoop).map (Block.retests setting.language) := by
  rcases setting with ⟨language, width⟩
  cases language <;> cases kind <;> rfl

end Outline

/-! ## Jumps in a gap -/

namespace Gap

/-- The blocks around a gap, the innermost first. -/
def kinds : Gap → List Block
  | .here _ _ => []
  | .inside _ _ kind inner _ _ => inner.kinds ++ [kind]

/--
The frames around a gap, the innermost first: those of the list that it stands in, and then
those of each block around it.
-/
def frames (setting : Outline.Setting) (depth : Int) : Gap → List (List Outline.Frame)
  | .here before after =>
      [[.beside (elementsOutline setting depth before) (elementsOutline setting depth after)]]
  | .inside before block kind inner after _ =>
      inner.frames setting (depth + kind.childDepth) ++
        [Outline.around setting (block.fields setting.language) depth kind ++
          [.beside (elementsOutline setting depth before)
            (elementsOutline setting depth after)]]

/-- How many blocks out the one is that a jump in a gap goes to, if it goes to one at all. -/
def target (setting : Outline.Setting) (depth : Int) (jump : Jump) (gap : Gap) : Option Nat :=
  (gap.frames setting depth).findIdx? (·.any (Outline.Frame.binds setting.language jump))

/-- Whether a loop that is resumed from a gap evaluates a condition before the next round. -/
def retests (setting : Outline.Setting) (depth : Int) (gap : Gap) : Bool :=
  ((gap.frames setting depth).flatten.find?
    (Outline.Frame.binds setting.language .resume)).any Outline.Frame.retests

variable (setting : Outline.Setting)

/-- The outline of a filled gap is the outline of what fills it, inside the gap's frames. -/
theorem outline_fill
    (gap : Gap) (depth : Int) (element : Element) :
    elementsOutline setting depth (gap.fill element) =
      Outline.surround setting (gap.frames setting depth).flatten
        (element.outline setting (depth + gap.depth)) := by
  induction gap generalizing depth with
  | here before after =>
      simp [fill, frames, Gap.depth, elementsOutline_eq_flatMap]
  | inside before block kind inner after isBlock ih =>
      have outline :
          (block.withChildren (inner.fill element)).outline setting depth =
            Outline.surround setting
              (Outline.around setting (block.fields setting.language) depth kind)
              (elementsOutline setting (depth + kind.childDepth) (inner.fill element)) := by
        rw [Element.outline_eq, Element.tag?_withChildren, isBlock,
          ← Outline.block_eq_surround, elementsOutline_eq_flatMap]
        rfl
      rw [fill, elementsOutline_eq_flatMap, List.flatMap_append, List.flatMap_cons, outline, ih]
      simp [frames, Gap.depth, Int.add_assoc, elementsOutline_eq_flatMap]

/-- Jumps look at the blocks around the gap alone. -/
theorem target_eq
    (gap : Gap) (depth : Int) (jump : Jump) :
    gap.target setting depth jump =
      (gap.kinds.findIdx? (Block.binds setting.language jump)).map (· + 1) := by
  -- The list that the gap stands in comes first and opens no clause.
  have levels :
      (gap.frames setting depth).map (·.any (Outline.Frame.binds setting.language jump)) =
        false :: gap.kinds.map (Block.binds setting.language jump) := by
    induction gap generalizing depth with
    | here before after => rfl
    | inside before block kind inner after isBlock ih =>
        simp [frames, kinds, ih, Outline.any_binds_around, Outline.Frame.binds]
  have index := congrArg (List.findIdx? id) levels
  rw [List.findIdx?_map, List.findIdx?_cons, List.findIdx?_map] at index
  exact index

theorem retests_eq
    (gap : Gap) (depth : Int) :
    gap.retests setting depth =
      (gap.kinds.find? Block.isLoop).any (Block.retests setting.language) := by
  have found :
      ((gap.frames setting depth).flatten.find?
          (Outline.Frame.binds setting.language .resume)).map Outline.Frame.retests =
        (gap.kinds.find? Block.isLoop).map (Block.retests setting.language) := by
    induction gap generalizing depth with
    | here before after => rfl
    | inside before block kind inner after isBlock ih =>
        have own := Outline.find?_binds_around setting (block.fields setting.language) depth kind
        rw [frames, kinds, List.flatten_append, List.find?_append, List.find?_append,
          Option.map_or, Option.map_or, ih, ← own]
        simp [Outline.Frame.binds]
  have tested := congrArg (Option.any id) found
  rwa [Option.any_map, Option.any_map] at tested

/--
Every element that is written fills a gap, and a jump in a gap is written inside the clauses
of the blocks around it, one of which each language takes it to.  For `break` two languages
agree on the block unless one of them is Python and the innermost loop or switch is a switch.
For `continue` they always do, since it resumes the innermost loop, but Python does not
evaluate the condition of a loop that tests last.
-/
theorem jumps_agree_iff
    (first second : Outline.Setting) (firstDepth secondDepth : Int) :
    (∀ elements : List Element,
      ∀ element ∈ elementsRendered elements, ∃ gap : Gap, gap.fill element = elements) ∧
    ∀ gap : Gap,
      (∀ (jump : Jump) (element : Element),
        elementsOutline first firstDepth (gap.fill { element with type := jump.statement.name }) =
          Outline.surround first (gap.frames first firstDepth).flatten
            [.line (first.indent (firstDepth + gap.depth) ++ jump.text first.language)]) ∧
        (gap.target first firstDepth .leave = gap.target second secondDepth .leave ↔
          gap.kinds.find? (fun kind => kind.isLoop || kind == .switch) ≠ some .switch ∨
            (first.language = .python ↔ second.language = .python)) ∧
        gap.target first firstDepth .resume = (gap.kinds.findIdx? Block.isLoop).map (· + 1) ∧
        ((gap.kinds.find? Block.isLoop = some .doWhile → gap.retests first firstDepth) ↔
          gap.kinds.find? Block.isLoop ≠ some .doWhile ∨ first.language ≠ .python) := by
  refine ⟨fun elements element written => exists_fill_eq written, fun gap => ?_⟩
  refine ⟨fun jump element => ?_, ?_, ?_, ?_⟩
  · rw [outline_fill, Jump.outline_eq]
  · rw [target_eq, target_eq, Option.map_inj_right fun _ _ => Nat.succ.inj,
      Block.findIdx?_binds_eq_iff]
  · have loops : Block.binds first.language .resume = Block.isLoop := by
      funext kind
      simp [Block.binds]
    rw [target_eq, loops]
  · rw [retests_eq]
    by_cases last : gap.kinds.find? Block.isLoop = some .doWhile
    · simp [last, Block.retests]
    · simp [last]

/-- A place in a choice in a loop. -/
def insideChoice : Gap :=
  .within .whileLoop (.within .ifElse (.here [] []))

/-- A `break` in a choice in a loop leaves the loop in every language. -/
theorem choiceInLoop_agrees :
    ({ type := "break" } : Element) ∈ elementsRendered (insideChoice.fill { type := "break" }) ∧
      (∃ gap : Gap, gap.fill { type := "break" } = insideChoice.fill { type := "break" }) ∧
      ∀ first second : Outline.Setting,
        insideChoice.target first 0 .leave = insideChoice.target second 0 .leave := by
  have written :
      ({ type := "break" } : Element) ∈
        elementsRendered (insideChoice.fill { type := "break" }) :=
    .tail _ (.tail _ (.head _))
  refine ⟨written, (jumps_agree_iff ⟨.csharp, 4⟩ ⟨.python, 4⟩ 0 0).1 _ _ written, ?_⟩
  intro first second
  have agree := (jumps_agree_iff first second 0 0).2 insideChoice
  exact agree.2.1.2 (Or.inl (by decide))

/-- A place in a switch in a loop. -/
def insideSwitch : Gap :=
  .within .counting (.within .switch (.here [] []))

/-- A place in a loop that tests last. -/
def insideDoWhile : Gap :=
  .within .doWhile (.here [] [])

/--
A `break` in a switch in a loop leaves the switch in C# and the loop in Python, and Python
resumes a loop that tests last without its test.
-/
theorem jumps_disagree :
    insideSwitch.target ⟨.csharp, 4⟩ 0 .leave = some 1 ∧
      insideSwitch.target ⟨.python, 4⟩ 0 .leave = some 2 ∧
      insideDoWhile.target ⟨.csharp, 4⟩ 0 .resume = some 1 ∧
      insideDoWhile.target ⟨.python, 4⟩ 0 .resume = some 1 ∧
      insideDoWhile.retests ⟨.csharp, 4⟩ 0 = true ∧
      insideDoWhile.retests ⟨.python, 4⟩ 0 = false :=
  ⟨rfl, rfl, rfl, rfl, rfl, rfl⟩

end Gap

end Blockwright
