import Blockwright.Proofs.Braces.Templates
import Blockwright.Source.Generator

/-!
# Line breaks in texts

A line of a file that holds a line feed is two lines to whoever reads the file.
Here line feeds are followed from the properties of an element into the texts
that are put together from them: a text that is quoted or moved to a depth holds
none, a type name holds one just if the name that it spells does, and a template
holds those of its slots, since none of the library's own literals holds any.

A text is cut at its line feeds, or at its line boundaries of every kind; either
way what stands before a line feed and what stands after it are cut on their own.
-/

namespace Blockwright

namespace Text

/-- The lines of a text are cut on their own, whatever they hold. -/
theorem splitOn_ofLines_append
    (lines : List Line) (rest : Text) :
    List.splitOn '\n' (ofLines lines ++ rest) =
      lines.flatMap (List.splitOn '\n') ++ List.splitOn '\n' rest := by
  induction lines with
  | nil => rfl
  | cons line others ih =>
      have spelled :
          ofLines (line :: others) ++ rest = line ++ '\n' :: (ofLines others ++ rest) := by
        simp [ofLines]
      rw [spelled, List.splitOn_append_cons_self, ih, List.flatMap_cons, List.append_assoc]

/-- Lines that hold no line feed are the pieces of the text that they are written as. -/
theorem splitOn_ofLines
    {lines : List Line}
    (unbroken : ∀ line ∈ lines, '\n' ∉ line) :
    List.splitOn '\n' (ofLines lines) = lines ++ [[]] := by
  induction lines with
  | nil => rfl
  | cons line others ih =>
      obtain ⟨whole, rest⟩ := List.forall_mem_cons.1 unbroken
      have spelled : ofLines (line :: others) = line ++ '\n' :: ofLines others := by
        rw [ofLines, List.flatMap_cons, List.append_assoc]
        rfl
      rw [spelled, List.splitOn_append_cons_self_of_not_mem whole, ih rest, List.cons_append]

theorem ofLines_append
    (first second : List Line) :
    ofLines (first ++ second) = ofLines first ++ ofLines second :=
  List.flatMap_append

theorem ofLines_inj
    {first second : List Line}
    (firstUnbroken : ∀ line ∈ first, '\n' ∉ line)
    (secondUnbroken : ∀ line ∈ second, '\n' ∉ line)
    (same : ofLines first = ofLines second) :
    first = second := by
  have pieces := congrArg (List.splitOn '\n') same
  rw [splitOn_ofLines firstUnbroken, splitOn_ofLines secondUnbroken] at pieces
  exact List.append_cancel_right pieces

/-- A text that begins with a whole line has that line as its first piece. -/
theorem head?_splitOn_intercalate
    {first : Text}
    (unbroken : '\n' ∉ first)
    (others : List Text) :
    (List.splitOn '\n' (List.intercalate ['\n'] (first :: others))).head? = some first := by
  cases others with
  | nil => rw [List.intercalate_singleton, List.splitOn_eq_singleton unbroken, List.head?_singleton]
  | cons second more =>
      rw [List.intercalate_cons_cons, List.append_assoc, List.singleton_append,
        List.splitOn_append_cons_self_of_not_mem unbroken, List.head?_cons]

theorem lines_eq_nil_iff
    (text : Text) :
    lines text = [] ↔ text = [] := by
  fun_cases lines text <;> simp

/-- A character that ends no line goes to the line that follows it. -/
theorem lines_cons_of_whole
    {c : Char}
    (whole : isBreak c = false)
    (rest : Text) :
    lines (c :: rest) = (c :: (lines rest).headD []) :: (lines rest).tail := by
  have other : ∀ more : Text, c = '\r' → rest = '\n' :: more → False := by
    rintro more rfl
    exact absurd whole (by decide)
  rw [lines, if_neg (by simp [whole])]
  · cases lines rest <;> rfl
  · exact other

/-- A boundary ends an empty line, unless it is the first half of one. -/
theorem lines_cons_of_end
    {c : Char} {rest : Text}
    (isEnd : isBreak c)
    (single : c = '\r' → rest.head? ≠ some '\n') :
    lines (c :: rest) = [] :: lines rest := by
  rw [lines, if_pos isEnd]
  rintro more rfl rfl
  exact single rfl rfl

/-- What stands before a line feed and what stands after it are cut on their own. -/
theorem lines_append_newline
    (front rest : Text) :
    lines (front ++ '\n' :: rest) = lines (front ++ ['\n']) ++ lines rest := by
  have wholeCase {c : Char} {more : Text}
      (whole : ¬isBreak c)
      (ih : lines (more ++ '\n' :: rest) = lines (more ++ ['\n']) ++ lines rest) :
      lines (c :: more ++ '\n' :: rest) = lines (c :: more ++ ['\n']) ++ lines rest := by
    have ended : lines (more ++ ['\n']) ≠ [] := by simp [lines_eq_nil_iff]
    obtain ⟨first, others, pieces⟩ := List.exists_cons_of_ne_nil ended
    rw [List.cons_append, List.cons_append, lines_cons_of_whole (by simpa using whole),
      lines_cons_of_whole (by simpa using whole), ih, pieces]
    rfl
  fun_induction lines front with
  | case1 => rfl
  | case2 more ih =>
      rw [List.cons_append, List.cons_append, lines, ih]
      rfl
  | case3 c more other isEnd ih =>
      cases more with
      | nil =>
          -- A carriage return at the end of the front makes one boundary with the line feed.
          by_cases carriage : c = '\r'
          · subst carriage
            rfl
          · rw [List.singleton_append, List.singleton_append,
              lines_cons_of_end isEnd (absurd · carriage),
              lines_cons_of_end isEnd (absurd · carriage)]
            rfl
      | cons second others =>
          have single (after : Text) :
              c = '\r' → ((second :: others) ++ after).head? ≠ some '\n' := by
            rintro carriage same
            obtain rfl : second = '\n' := by simpa using same
            exact other others carriage rfl
          calc
            lines (c :: (second :: others ++ '\n' :: rest)) =
                [] :: lines (second :: others ++ '\n' :: rest) :=
              lines_cons_of_end isEnd (single _)
            _ = [] :: lines (second :: others ++ ['\n']) ++ lines rest := congrArg _ ih
            _ = lines (c :: (second :: others ++ ['\n'])) ++ lines rest :=
              congrArg (· ++ lines rest) (lines_cons_of_end isEnd (single _)).symm
  | case4 c more other whole nothing ih => exact wholeCase whole ih
  | case5 c more other whole first others pieces ih => exact wholeCase whole ih

/-- What stands before every line boundary goes to the first line. -/
theorem exists_lines_append
    {front text : Text}
    (whole : front.all (fun c => !isBreak c))
    (some : text ≠ []) :
    ∃ first others,
      lines text = first :: others ∧ lines (front ++ text) = (front ++ first) :: others := by
  induction front with
  | nil =>
      obtain ⟨first, others, pieces⟩ :=
        List.exists_cons_of_ne_nil (mt (lines_eq_nil_iff text).1 some)
      exact ⟨first, others, pieces, pieces⟩
  | cons c rest ih =>
      obtain ⟨head, tail⟩ : isBreak c = false ∧ rest.all (fun c => !isBreak c) := by
        simpa using whole
      obtain ⟨first, others, pieces, appended⟩ := ih tail
      refine ⟨first, others, pieces, ?_⟩
      rw [List.cons_append, lines_cons_of_whole head, appended]
      rfl

theorem newline_not_mem_line
    {raw : Text}
    (whole : '\n' ∉ raw)
    (width : Nat) (depth : Int) :
    '\n' ∉ Layout.line width depth raw := by
  have rest : '\n' ∉ raw.dropWhile (· = ' ') :=
    fun member => whole ((List.dropWhile_sublist _).mem member)
  simp only [Layout.line]
  split
  · exact List.not_mem_nil
  · simp [Layout.indent, List.mem_replicate, rest]

/-- A text that is moved to a depth is cut at its line feeds. -/
theorem newline_not_mem_of_mem_lines
    {width : Nat} {depth : Int} {text : Text} {line : Line}
    (member : line ∈ Layout.lines width depth text) :
    '\n' ∉ line := by
  obtain ⟨raw, piece, rfl⟩ := List.mem_map.1 member
  exact newline_not_mem_line (not_mem_of_mem_splitOn piece) width depth

/-- A character that no escape is made of is left as it is, or else written out. -/
theorem mem_escape_iff
    {c : Char}
    (plain : c ∉ ['\\', '"', 'n', 'r'])
    (d : Char) :
    c ∈ escape d ↔ c = d ∧ c ≠ '\n' ∧ c ≠ '\r' := by
  simp only [List.mem_cons, List.not_mem_nil, or_false, not_or] at plain
  simp only [escape]
  split
  · simp [plain]
  · simp [plain]
  · simp only [List.mem_cons, plain, List.not_mem_nil, or_false, false_iff]
    rintro ⟨rfl, notFeed, _⟩
    exact notFeed rfl
  · simp only [List.mem_cons, plain, List.not_mem_nil, or_false, false_iff]
    rintro ⟨rfl, _, notReturn⟩
    exact notReturn rfl
  · next notFeed notReturn =>
      rw [List.mem_singleton]
      refine ⟨?_, And.left⟩
      rintro rfl
      exact ⟨rfl, notFeed, notReturn⟩

/-- A literal holds what its text holds, but for line feeds and carriage returns. -/
theorem mem_quote_iff
    {c : Char}
    (plain : c ∉ ['\\', '"', 'n', 'r'])
    (text : Text) :
    c ∈ quote text ↔ c ∈ text ∧ c ≠ '\n' ∧ c ≠ '\r' := by
  have ends : c ≠ '"' := by
    rintro rfl
    exact plain (by decide)
  simp only [quote, List.mem_cons, ends, false_or, List.mem_append, List.mem_flatMap,
    mem_escape_iff plain, List.not_mem_nil, or_false]
  constructor
  · rintro ⟨d, member, rfl, neither⟩
    exact ⟨member, neither⟩
  · rintro ⟨member, neither⟩
    exact ⟨c, member, rfl, neither⟩

/-- A literal is written on one line. -/
theorem not_mem_quote
    {c : Char}
    (escaped : c = '\n' ∨ c = '\r')
    (text : Text) :
    c ∉ quote text := by
  have plain : c ∉ ['\\', '"', 'n', 'r'] := by
    rcases escaped with rfl | rfl <;> decide
  rw [mem_quote_iff plain]
  rintro ⟨_, notFeed, notReturn⟩
  exact escaped.elim notFeed notReturn

end Text

/-! ## Type names -/

namespace TypeName

/-- What no entry of the table holds stands in a spelling just if it stands in the name. -/
theorem mem_spell_iff
    {language : Language} {boxed : Bool} {c : Char}
    (lacking : ∀ entry ∈ table language boxed, c ∉ entry.1.toList ∧ c ∉ entry.2.toList)
    (name : Text) :
    c ∈ spell language boxed name ↔ c ∈ name := by
  simp only [spell]
  split
  · next entry spelling found =>
      have member := List.mem_of_find?_eq_some found
      have same : entry.toList = name := by simpa using List.find?_some found
      rw [← same]
      have both := lacking _ member
      exact iff_of_false both.2 both.1
  · exact Iff.rfl

theorem unbroken_of_mem_table
    (language : Language) (boxed : Bool) :
    ∀ entry ∈ table language boxed, '\n' ∉ entry.1.toList ∧ '\n' ∉ entry.2.toList := by
  cases language <;> cases boxed <;> decide

/-- Only a name that a project makes up can break a line. -/
theorem newline_mem_spell_iff
    (language : Language) (boxed : Bool) (name : Text) :
    '\n' ∈ spell language boxed name ↔ '\n' ∈ name :=
  mem_spell_iff (unbroken_of_mem_table language boxed) name

end TypeName

theorem Generator.newline_mem_typeName_iff
    (generator : Generator) (name : String) :
    '\n' ∈ generator.typeName name ↔ '\n' ∈ name.toList :=
  TypeName.newline_mem_spell_iff generator.language false name.toList

/-! ## Filled templates -/

/-- A part of a template on one line. -/
def Piece.Unbroken : Piece → Prop
  | .literal text => '\n' ∉ text
  | .slot _ => True

instance : DecidablePred Piece.Unbroken
  | .literal text => inferInstanceAs (Decidable ('\n' ∉ text))
  | .slot _ => isTrue trivial

namespace Template

/-- What no literal of a template holds stands in the filled template just if a slot holds it. -/
theorem mem_fill_iff
    {template : Template} {c : Char}
    (lacking : ∀ text, .literal text ∈ template → c ∉ text)
    (value : Slot → Text) :
    c ∈ template.fill value ↔ ∃ slot ∈ template.slots, c ∈ value slot := by
  simp only [fill, slots, List.mem_flatMap, List.mem_filterMap]
  constructor
  · rintro ⟨piece, inside, held⟩
    cases piece with
    | literal text => exact absurd held (lacking text inside)
    | slot slot => exact ⟨slot, ⟨_, inside, rfl⟩, held⟩
  · rintro ⟨slot, ⟨piece, inside, own⟩, held⟩
    cases piece with
    | literal text => exact absurd own (by simp)
    | slot other =>
        obtain rfl : other = slot := Option.some.inj own
        exact ⟨_, inside, held⟩

/-- A template whose literals stand on one line is broken by its slots alone. -/
theorem newline_mem_fill_iff
    {template : Template}
    (unbroken : ∀ piece ∈ template, piece.Unbroken)
    (value : Slot → Text) :
    '\n' ∈ template.fill value ↔ ∃ slot ∈ template.slots, '\n' ∈ value slot :=
  mem_fill_iff (fun _ inside => unbroken _ inside) value

end Template

namespace Fields

variable (fields : Fields)

/-- A slot is broken by the property that it asks for, unless it quotes it. -/
theorem newline_mem_slot_iff
    (slot : Slot) :
    '\n' ∈ fields.slot slot ↔ ∃ property ∈ slot.raw?, '\n' ∈ fields.text property := by
  cases slot with
  | quoted name => simp [Fields.slot, Slot.raw?, Text.not_mem_quote]
  | field name => simp [Fields.slot, Slot.raw?, Slot.property]
  | native name | boxed name =>
      simp [Fields.slot, Slot.raw?, Slot.property, TypeName.newline_mem_spell_iff]

/-- A template is broken by the properties that it writes without quoting them. -/
theorem newline_mem_fill_iff
    {template : Template}
    (unbroken : ∀ piece ∈ template, piece.Unbroken) :
    '\n' ∈ fields.fill template ↔
      ∃ property ∈ template.rawProperties, '\n' ∈ fields.text property := by
  rw [fill, Template.newline_mem_fill_iff unbroken]
  simp only [newline_mem_slot_iff, Template.rawProperties, List.mem_filterMap]
  constructor
  · rintro ⟨slot, asked, property, raw, broken⟩
    exact ⟨property, ⟨slot, asked, raw⟩, broken⟩
  · rintro ⟨property, ⟨slot, asked, raw⟩, broken⟩
    exact ⟨slot, asked, property, raw, broken⟩

end Fields

end Blockwright
