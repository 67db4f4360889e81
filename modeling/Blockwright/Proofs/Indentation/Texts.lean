import Blockwright.Proofs.Indentation.Levels
import Blockwright.Proofs.MovedTexts
import Blockwright.Proofs.Properties.Declared
import Blockwright.Proofs.Suites.Silence

/-!
# Indented texts

A text of the library that is stepped in levels of its own stays stepped when it
is moved to a depth of a file.  The texts of Python's statements and utilities are
stepped: they are written out whole, or they stand on one line, which holds if no
text that a project contributes breaks the line, begins with a space or ends as an
opener does.  Quoted texts may be any, since their quotes hold them together.
-/

namespace Blockwright

namespace Layout

/-! ## Lines at a depth -/

/-- How many spaces open a line at a depth. -/
def margin (width : Nat) (depth : Int) : Nat :=
  width * depth.toNat

variable {width : Nat} {depth : Int}

theorem dvd_margin :
    width ∣ margin width depth :=
  Nat.dvd_mul_right ..

theorem margin_add
    (within : 0 ≤ depth)
    (level : Nat) :
    margin width (depth + level) = margin width depth + width * level := by
  have levels : (depth + level).toNat = depth.toNat + level := by omega
  rw [margin, levels, Nat.mul_add]
  rfl

theorem margin_succ
    (within : 0 ≤ depth) :
    margin width (depth + 1) = margin width depth + width := by
  have added : margin width (depth + 1) = margin width depth + width * 1 :=
    margin_add within 1
  rw [added, Nat.mul_one]

theorem leadingSpaces_indent_append
    {text : Text}
    (flush : text.head? ≠ some ' ') :
    leadingSpaces (indent width depth ++ text) = margin width depth :=
  leadingSpaces_replicate_append _ flush

theorem isOpener_append
    {front text : Text}
    (nonempty : text ≠ []) :
    Text.IsOpener (front ++ text) ↔ text.IsOpener := by
  rw [Text.IsOpener, Text.IsOpener, List.getLast?_append_of_ne_nil _ nonempty]

/-- A text on one line that begins at once is written behind the spaces of its depth. -/
theorem lines_of_flush
    {text : Text}
    (unbroken : '\n' ∉ text)
    (flush : text.head? ≠ some ' ')
    (nonempty : text ≠ []) :
    lines width depth text = [indent width depth ++ text] := by
  rw [lines, List.splitOn_eq_singleton unbroken, List.map_singleton,
    line_of_flush nonempty flush]

/-- What stands one level deeper may stand below an opener. -/
theorem Body.under
    (positive : 0 < width)
    (within : 0 ≤ depth)
    {text : Text}
    (unbroken : '\n' ∉ text)
    (flush : text.head? ≠ some ' ')
    (opens : text.IsOpener)
    {lines : List Line}
    (body : Body width (margin width (depth + 1)) lines) :
    Body width (margin width depth) ((indent width depth ++ text) :: lines) := by
  have nonempty : text ≠ [] := by
    rintro rfl
    exact absurd opens (by decide)
  apply Body.opening
  · simp [indent, List.mem_replicate, unbroken]
  · exact dvd_margin
  · exact positive
  · exact leadingSpaces_indent_append flush
  · exact (isOpener_append nonempty).2 opens
  · rwa [← margin_succ within]

theorem any_ne_space_iff
    (raw : Text) :
    raw.any (· != ' ') = true ↔ ¬Blank raw := by
  simp [Blank]

theorem any_line
    (raw : Text) :
    (line width depth raw).any (· != ' ') = raw.any (· != ' ') := by
  rw [Bool.eq_iff_iff, any_ne_space_iff, any_ne_space_iff, blank_line_iff]

/-- A line with whole levels of its own opens with as many levels more than the depth. -/
theorem line_moved
    (within : 0 ≤ depth)
    {raw : Text}
    (aligned : nesting ∣ leadingSpaces raw)
    (some : raw.any (· != ' ') = true) :
    leadingSpaces (line width depth raw) =
        margin width depth + width * (leadingSpaces raw / nesting) ∧
      (Text.IsOpener (line width depth raw) ↔ raw.IsOpener) := by
  obtain ⟨levels, rfl⟩ := Int.eq_ofNat_of_zero_le within
  have written := (any_ne_space_iff raw).1 some
  have stripped := mt (blank_iff raw).2 written
  constructor
  · rw [leadingSpaces_line width levels written, Nat.mod_eq_zero_of_dvd aligned, Nat.add_zero,
      Nat.mul_add]
    rfl
  · rw [line_of_not_blank width levels written, isOpener_append stripped]
    conv_rhs => rw [← replicate_leadingSpaces_append raw, isOpener_append stripped]

/-- One level between two lines stays one level. -/
theorem Follows.moved
    (positive : 0 < width)
    (within : 0 ≤ depth)
    {above below : Line}
    (follows : Follows nesting above below)
    (upper : nesting ∣ leadingSpaces above ∧ above.any (· != ' ') = true)
    (lower : nesting ∣ leadingSpaces below ∧ below.any (· != ' ') = true) :
    Follows width (line width depth above) (line width depth below) := by
  obtain ⟨outer, outerSpaces⟩ := upper.1
  obtain ⟨inner, innerSpaces⟩ := lower.1
  have levels (level : Nat) : nesting * level / nesting = level :=
    Nat.mul_div_cancel_left level (by decide)
  have aboveSpaces :
      leadingSpaces (line width depth above) = margin width depth + width * outer := by
    rw [(line_moved within upper.1 upper.2).1, outerSpaces, levels]
  have belowSpaces :
      leadingSpaces (line width depth below) = margin width depth + width * inner := by
    rw [(line_moved within lower.1 lower.2).1, innerSpaces, levels]
  have opens : Text.IsOpener (line width depth above) ↔ above.IsOpener :=
    (line_moved within upper.1 upper.2).2
  constructor
  · rw [aboveSpaces, belowSpaces, opens, ← follows.deeper, outerSpaces, innerSpaces,
      Nat.add_lt_add_iff_left, Nat.mul_lt_mul_left positive, Nat.mul_lt_mul_left (by decide)]
  · intro opener
    have once := follows.once (opens.1 opener)
    rw [outerSpaces, innerSpaces] at once
    have one : inner = outer + 1 := by
      simp only [nesting] at once
      omega
    rw [aboveSpaces, belowSpaces, one, Nat.mul_add, Nat.mul_one, Nat.add_assoc]

theorem written_moved
    (raws : List Line) :
    written (raws.map (line width depth)) = (written raws).map (line width depth) := by
  simp only [written, List.filter_map, Function.comp_def, any_line]

/-- A piece that is stepped in its own levels is stepped at every depth. -/
theorem Stepped.moved
    (positive : 0 < width)
    (within : 0 ≤ depth)
    {raws : List Line}
    (stepped : Stepped nesting 0 raws) :
    Stepped width (margin width depth) (raws.map (line width depth)) := by
  have own (raw : Line) (member : raw ∈ written raws) :
      leadingSpaces (line width depth raw) =
          margin width depth + width * (leadingSpaces raw / nesting) ∧
        (Text.IsOpener (line width depth raw) ↔ raw.IsOpener) :=
    line_moved within (stepped.aligned raw member).1 (List.mem_filter.1 member).2
  constructor
  · intro line member
    obtain ⟨raw, inside, rfl⟩ := List.mem_map.1 member
    exact Text.newline_not_mem_line (stepped.unbroken raw inside) width depth
  all_goals rw [written_moved]
  · intro line member
    obtain ⟨raw, inside, rfl⟩ := List.mem_map.1 member
    rw [(own raw inside).1]
    exact ⟨Nat.dvd_add dvd_margin (Nat.dvd_mul_right ..), Nat.le_add_right ..⟩
  · rw [List.isChain_map]
    apply stepped.follows.imp_of_mem_imp
    intro above below member next follows
    exact follows.moved positive within
      ⟨(stepped.aligned above member).1, (List.mem_filter.1 member).2⟩
      ⟨(stepped.aligned below next).1, (List.mem_filter.1 next).2⟩
  · intro line begins
    rw [List.head?_map] at begins
    obtain ⟨raw, first, rfl⟩ := Option.map_eq_some_iff.1 begins
    rw [(own raw (List.mem_of_head? first)).1, stepped.first raw first]
    rfl
  · intro line ends
    rw [List.getLast?_map] at ends
    obtain ⟨raw, last, rfl⟩ := Option.map_eq_some_iff.1 ends
    rw [(own raw (List.mem_of_getLast? last)).2]
    exact stepped.last raw last

theorem Body.moved
    (positive : 0 < width)
    (within : 0 ≤ depth)
    {raws : List Line}
    (body : Body nesting 0 raws) :
    Body width (margin width depth) (raws.map (line width depth)) where
  toStepped := body.toStepped.moved positive within
  nonempty := by
    rw [written_moved, Ne, List.map_eq_nil_iff]
    exact body.nonempty

instance (width margin : Nat) (lines : List Line) : Decidable (Body width margin lines) :=
  decidable_of_iff
    ((∀ line ∈ lines, '\n' ∉ line) ∧
      (∀ line ∈ written lines, width ∣ leadingSpaces line ∧ margin ≤ leadingSpaces line) ∧
      (written lines).IsChain (Follows width) ∧
      (∀ line ∈ (written lines).head?, leadingSpaces line = margin) ∧
      (∀ line ∈ (written lines).getLast?, ¬line.IsOpener) ∧
      written lines ≠ [])
    ⟨fun all => ⟨⟨all.1, all.2.1, all.2.2.1, all.2.2.2.1, all.2.2.2.2.1⟩, all.2.2.2.2.2⟩,
      fun body => ⟨body.unbroken, body.aligned, body.follows, body.first, body.last,
        body.nonempty⟩⟩

end Layout

/-! ## Inline texts -/

/-- A text that neither breaks its line, nor begins with a space, nor ends as an opener does. -/
structure Text.Inline (text : Text) : Prop where
  unbroken : '\n' ∉ text
  flush : text.head? ≠ some ' '
  closed : ¬text.IsOpener

instance (text : Text) : Decidable text.Inline :=
  decidable_of_iff ('\n' ∉ text ∧ text.head? ≠ some ' ' ∧ ¬text.IsOpener)
    ⟨fun all => ⟨all.1, all.2.1, all.2.2⟩, fun inline => ⟨inline.1, inline.2, inline.3⟩⟩

/-- An inline text that is not empty. -/
structure Text.Solid (text : Text) : Prop extends text.Inline where
  nonempty : text ≠ []

instance (text : Text) : Decidable text.Solid :=
  decidable_of_iff (text.Inline ∧ text ≠ [])
    ⟨fun both => ⟨both.1, both.2⟩, fun solid => ⟨solid.toInline, solid.nonempty⟩⟩

namespace Text

theorem solid_quote
    (text : Text) :
    (quote text).Solid where
  unbroken := not_mem_quote (.inl rfl) text
  flush := by
    simp [quote]
  closed := by
    have ends : quote text = ('"' :: text.flatMap escape) ++ ['"'] := rfl
    rw [ends, Layout.isOpener_append (List.cons_ne_nil _ _)]
    decide
  nonempty := List.cons_ne_nil _ _

theorem Solid.body
    {text : Text}
    (solid : text.Solid) :
    Layout.Body Layout.nesting 0 (List.splitOn '\n' text) := by
  rw [List.splitOn_eq_singleton solid.unbroken]
  apply Layout.Body.single
  · exact solid.unbroken
  · exact Nat.dvd_zero _
  · exact Layout.leadingSpaces_replicate_append 0 solid.flush
  · exact solid.closed
  · obtain ⟨c, rest, rfl⟩ := List.exists_cons_of_ne_nil solid.nonempty
    have different : c ≠ ' ' := by simpa using solid.flush
    simp [different]

theorem solid_append
    {first last : Text}
    (firstUnbroken : '\n' ∉ first)
    (begins : first ≠ [] ∧ first.head? ≠ some ' ')
    (lastUnbroken : '\n' ∉ last)
    (ends : last ≠ [] ∧ ¬last.IsOpener) :
    (first ++ last).Solid where
  unbroken := by simp [firstUnbroken, lastUnbroken]
  flush := by
    rw [List.head?_append_of_ne_nil _ begins.1]
    exact begins.2
  closed := by
    rw [Layout.isOpener_append ends.1]
    exact ends.2
  nonempty := List.append_ne_nil_of_left_ne_nil begins.1 _

end Text

/-! ## Filled templates -/

def Piece.Begins : Piece → Prop
  | .literal text => text ≠ [] ∧ text.head? ≠ some ' '
  | .slot _ => True

def Piece.Ends : Piece → Prop
  | .literal text => text ≠ [] ∧ ¬text.IsOpener
  | .slot _ => True

instance : DecidablePred Piece.Begins
  | .literal text => inferInstanceAs (Decidable (text ≠ [] ∧ text.head? ≠ some ' '))
  | .slot _ => isTrue trivial

instance : DecidablePred Piece.Ends
  | .literal text => inferInstanceAs (Decidable (text ≠ [] ∧ ¬text.IsOpener))
  | .slot _ => isTrue trivial

namespace Template

/-- The texts of a template are inline where they have to be. -/
structure OneLine (template : Template) : Prop where
  unbroken : ∀ piece ∈ template, piece.Unbroken
  first : ∃ piece ∈ template.head?, piece.Begins
  last : ∃ piece ∈ template.getLast?, piece.Ends

instance (template : Template) : Decidable template.OneLine :=
  have : Decidable (∃ piece ∈ template.head?, piece.Begins) :=
    Option.decidableExistsMem template.head?
  have : Decidable (∃ piece ∈ template.getLast?, piece.Ends) :=
    Option.decidableExistsMem template.getLast?
  decidable_of_iff
    ((∀ piece ∈ template, piece.Unbroken) ∧
      (∃ piece ∈ template.head?, piece.Begins) ∧ ∃ piece ∈ template.getLast?, piece.Ends)
    ⟨fun all => ⟨all.1, all.2.1, all.2.2⟩, fun oneLine => ⟨oneLine.1, oneLine.2, oneLine.3⟩⟩

/-- The text of a template that is nothing else. -/
def whole? : Template → Option Text
  | [.literal text] => some text
  | _ => none

/-- A template stands on one line, or is written out whole in levels of its own. -/
def Nested (template : Template) : Prop :=
  template.OneLine ∨
    ∃ text ∈ template.whole?, Layout.Body Layout.nesting 0 (List.splitOn '\n' text)

instance (template : Template) : Decidable template.Nested :=
  have : Decidable
      (∃ text ∈ template.whole?, Layout.Body Layout.nesting 0 (List.splitOn '\n' text)) :=
    Option.decidableExistsMem template.whole?
  inferInstanceAs (Decidable (_ ∨ _))

section Filled

variable {value : Slot → Text} {piece : Piece}

theorem begins_fillPiece
    (slots : ∀ slot, piece = .slot slot → (value slot).Solid)
    (begins : piece.Begins) :
    fillPiece value piece ≠ [] ∧ (fillPiece value piece).head? ≠ some ' ' := by
  cases piece with
  | literal text => exact begins
  | slot slot => exact ⟨(slots slot rfl).nonempty, (slots slot rfl).flush⟩

theorem ends_fillPiece
    (slots : ∀ slot, piece = .slot slot → (value slot).Solid)
    (ends : piece.Ends) :
    fillPiece value piece ≠ [] ∧ ¬Text.IsOpener (fillPiece value piece) := by
  cases piece with
  | literal text => exact ends
  | slot slot => exact ⟨(slots slot rfl).nonempty, (slots slot rfl).closed⟩

end Filled

/-- The first and the last part decide how the text of a template begins and ends. -/
theorem solid_fill
    {value : Slot → Text} {template : Template}
    (slots : ∀ slot ∈ template.slots, (value slot).Solid)
    (oneLine : template.OneLine) :
    (template.fill value).Solid := by
  have unbroken : '\n' ∉ template.fill value := by
    intro member
    obtain ⟨piece, inside, broken⟩ := List.mem_flatMap.1 member
    cases piece with
    | literal text => exact oneLine.unbroken _ inside broken
    | slot slot => exact (slots slot (mem_slots inside)).unbroken broken
  have solid {piece : Piece} (member : piece ∈ template) (slot : Slot) (same : piece = .slot slot) :
      (value slot).Solid := by
    rw [same] at member
    exact slots slot (mem_slots member)
  obtain ⟨first, begins, firstBegins⟩ := oneLine.first
  obtain ⟨last, ends, lastEnds⟩ := oneLine.last
  obtain ⟨written, flush⟩ := begins_fillPiece (solid (List.mem_of_head? begins)) firstBegins
  obtain ⟨ended, closed⟩ := ends_fillPiece (solid (List.mem_of_getLast? ends)) lastEnds
  obtain ⟨others, front⟩ := List.head?_eq_some_iff.1 begins
  obtain ⟨before, back⟩ := List.getLast?_eq_some_iff.1 ends
  have frontFilled : template.fill value = fillPiece value first ++ fill value others := by
    rw [front]
    exact List.flatMap_cons
  have backFilled : template.fill value = fill value before ++ fillPiece value last := by
    rw [back, fill, List.flatMap_append, List.flatMap_singleton]
    rfl
  constructor
  · constructor
    · exact unbroken
    · rw [frontFilled, List.head?_append_of_ne_nil _ written]
      exact flush
    · rw [backFilled, Layout.isOpener_append ended]
      exact closed
  · rw [frontFilled]
    exact List.append_ne_nil_of_left_ne_nil written _

theorem body_fill
    {value : Slot → Text} {template : Template}
    (slots : ∀ slot ∈ template.slots, (value slot).Solid)
    (nested : template.Nested) :
    Layout.Body Layout.nesting 0 (List.splitOn '\n' (template.fill value)) := by
  rcases nested with oneLine | ⟨text, whole, body⟩
  · exact (solid_fill slots oneLine).body
  · obtain rfl : template = [.literal text] := by
      simp only [whole?] at whole
      split at whole
      · obtain rfl := Option.some.inj whole
        rfl
      · exact absurd whole (by simp)
    rw [fill, List.flatMap_singleton]
    exact body

end Template

namespace Dialect.Python

theorem nested_statement
    (kind : Statement) :
    (statement kind).Nested := by
  cases kind
  all_goals decide

/-- The headers of clauses, among which the test that closes a loop does not count. -/
theorem oneLine_headers
    (kind : Block)
    (ordinary : kind ≠ .doWhile) :
    ∀ template ∈ headers.templates kind, template.OneLine := by
  cases kind with
  | doWhile => exact absurd rfl ordinary
  | counting | forEach | whileLoop | conditional | ifElse | ifElseIf | switch =>
      decide

theorem body_utilitySource
    (kind : Utility) :
    Layout.Body Layout.nesting 0
      (List.splitOn '\n' (Language.python.utilitySource kind)) := by
  cases kind
  all_goals
    simp only [Language.utilitySource, Language.utilityLines, Dialect.Python.utility,
      List.map_cons, List.map_nil]
    repeat rw [String.toList_ofList]
    decide

end Dialect.Python

/-! ## Properties -/

/-- The text that a project sets for a property, if it sets one, is inline. -/
def Fields.InlineProperty (fields : Fields) (property : Text) : Prop :=
  ∀ value ∈ fields.set? property, (value.scalarText fields.language).Inline

instance (fields : Fields) (property : Text) : Decidable (fields.InlineProperty property) :=
  Option.decidableForallMem (fields.set? property)

/-- The texts that an element itself contributes to a Python file without quotes are inline. -/
structure Element.InlineTexts (element : Element) : Prop where
  type : element.tag? = none → Text.Inline element.type.toList
  properties :
    ∀ tag ∈ element.tag?, ∀ property ∈ Language.python.rawProperties tag,
      (element.fields .python).InlineProperty property

instance (element : Element) : Decidable element.InlineTexts :=
  decidable_of_iff
    ((element.tag? = none → Text.Inline element.type.toList) ∧
      ∀ tag ∈ element.tag?, ∀ property ∈ Language.python.rawProperties tag,
        (element.fields .python).InlineProperty property)
    ⟨fun both => ⟨both.1, both.2⟩, fun inline => ⟨inline.type, inline.properties⟩⟩

namespace Dialect.Python

set_option maxRecDepth 10000 in
theorem solid_statement
    (kind : Statement) :
    ∀ property ∈ Language.python.rawProperties (.statement kind),
      ∃ value ∈ (Tag.statement kind).default? .python property,
        Text.Solid (value.spell .python) := by
  cases kind
  all_goals decide

theorem solid_block
    (kind : Block) :
    ∀ property ∈ Language.python.rawProperties (.block kind),
      ∃ value ∈ (Tag.block kind).default? .python property,
        Text.Solid (value.spell .python) := by
  cases kind
  all_goals decide

/-- What a tag writes as it is has a default that is solid. -/
theorem solid_default
    {tag : Tag} {property : Text}
    (raw : property ∈ Language.python.rawProperties tag) :
    ∃ value ∈ tag.default? .python property, Text.Solid (value.spell .python) := by
  cases tag with
  | statement kind => exact solid_statement kind property raw
  | block kind => exact solid_block kind property raw
  | utility kind => exact absurd raw List.not_mem_nil

end Dialect.Python

theorem TypeName.solid_spell
    {name : Text}
    (solid : name.Solid)
    (boxed : Bool) :
    Text.Solid (spell .python boxed name) := by
  have table : ∀ entry ∈ python, Text.Solid entry.2.toList := by decide
  rcases spell_eq_or_mem .python boxed name with same | ⟨entry, member, spelled⟩
  · rwa [same]
  · rw [spelled]
    exact table entry member

namespace Fields

variable {fields : Fields} {tag : Tag}
  (python : fields.language = .python)
  (known : Tag.ofName? fields.type = some tag)
  (inline : ∀ property ∈ Language.python.rawProperties tag, fields.InlineProperty property)

include python known inline

theorem solid_text
    {property : Text}
    (raw : property ∈ Language.python.rawProperties tag) :
    (fields.text property).Solid := by
  rw [text]
  cases given : fields.set? property with
  | some value =>
      have kept := (Option.filter_eq_some_iff.1 given).2
      exact ⟨inline property raw value given,
        Document.scalarText_ne_nil (by simpa using kept) fields.language⟩
  | none =>
      obtain ⟨value, default, solid⟩ := Dialect.Python.solid_default raw
      simpa [defaultText, python, known, Option.mem_def.1 default] using solid

omit python known inline in
theorem solid_stepText
    (counter : (fields.text "variable").Solid)
    (increment : (fields.text "increment").Solid) :
    fields.stepText.Solid := by
  by_cases one : fields.text "increment" = "1"
  · have step : fields.stepText = fields.text "variable" ++ "++" := if_pos one
    rw [step]
    exact Text.solid_append counter.unbroken ⟨counter.nonempty, counter.flush⟩ (by decide)
      (by decide)
  · have step : fields.stepText = fields.text "variable" ++ (" += " ++ fields.text "increment") :=
      (if_neg one).trans (List.append_assoc ..)
    have plus : '\n' ∉ " += ".toList := by decide
    rw [step]
    apply Text.solid_append counter.unbroken ⟨counter.nonempty, counter.flush⟩
    · exact fun member => (List.mem_append.1 member).elim plus increment.unbroken
    · rw [Layout.isOpener_append increment.nonempty]
      exact ⟨List.append_ne_nil_of_right_ne_nil _ increment.nonempty, increment.closed⟩

omit python known inline in
theorem solid_rangeText
    (start : (fields.text "start").Solid)
    (stop : (fields.text "end").Solid)
    (increment : (fields.text "increment").Solid) :
    fields.rangeText.Solid := by
  have comma : '\n' ∉ ", ".toList := by decide
  have pair : '\n' ∉ fields.text "start" ++ ", ".toList ++ fields.text "end" := by
    simp only [List.mem_append, not_or]
    exact ⟨⟨start.unbroken, comma⟩, stop.unbroken⟩
  have bounds :
      '\n' ∉
        (if fields.text "increment" = "1" then
          fields.text "start" ++ ", ".toList ++ fields.text "end"
        else
          fields.text "start" ++ ", ".toList ++ fields.text "end" ++ ", ".toList ++
            fields.text "increment") := by
    split
    · exact pair
    · simp only [List.mem_append, not_or] at pair ⊢
      exact ⟨⟨pair, comma⟩, increment.unbroken⟩
  have opened : '\n' ∉ "range(".toList := by decide
  apply Text.solid_append
  · exact fun member => (List.mem_append.1 member).elim opened bounds
  · constructor
    · exact List.append_ne_nil_of_left_ne_nil (by decide) _
    · rw [List.head?_append_of_ne_nil _ (by decide)]
      decide
  · decide
  · decide

theorem solid_loopText
    (counting : tag = .block .counting)
    {entry : Text × Text}
    (member : entry ∈ fields.loopTexts) :
    Text.Solid entry.2 := by
  subst counting
  have text (property : Text)
      (raw : property ∈ Language.python.rawProperties (.block .counting)) :
      (fields.text property).Solid :=
    solid_text python known inline raw
  have increment := text "increment" (by decide)
  rcases List.mem_cons.1 member with rfl | member
  · exact solid_stepText (text "variable" (by decide)) increment
  · rcases List.mem_singleton.1 member with rfl
    exact solid_rangeText (text "start" (by decide)) (text "end" (by decide)) increment

theorem solid_slot
    {slot : Slot} {property : Text}
    (asks : slot.raw? = some property)
    (raw : property ∈ Language.python.rawProperties tag) :
    (fields.slot slot).Solid := by
  have solid := solid_text python known inline raw
  cases slot with
  | quoted name => exact absurd asks (by simp [Slot.raw?])
  | field name =>
      obtain rfl : name = property := Option.some.inj asks
      exact solid
  | native name =>
      obtain rfl : name = property := Option.some.inj asks
      rw [slot, python]
      exact TypeName.solid_spell solid false
  | boxed name =>
      obtain rfl : name = property := Option.some.inj asks
      rw [slot, python]
      exact TypeName.solid_spell solid true

/-- Every slot of a tag's templates is filled by a solid text. -/
theorem solid_slotWith
    {template : Template} {slot : Slot}
    (written : template ∈ fields.language.templates tag)
    (asked : slot ∈ template.slots) :
    (fields.slotWith (fields.extraTexts tag) slot).Solid := by
  simp only [slotWith]
  split
  · next name text found =>
      have member := List.mem_of_find?_eq_some found
      simp only [extraTexts] at member
      split at member
      · exact solid_loopText python known inline rfl member
      · exact absurd member List.not_mem_nil
  · next ordinary =>
      cases asks : slot.raw? with
      | none =>
          cases slot with
          | quoted name => exact Text.solid_quote _
          | field name | native name | boxed name => exact absurd asks (by simp [Slot.raw?])
      | some property =>
          rcases Language.mem_rawProperties written asked asks with own | ⟨rfl, extra⟩
          · rw [python] at own
            exact solid_slot python known inline asks own
          · exact absurd ordinary (fields.find?_loopTexts_ne_none extra)

end Fields

end Blockwright
