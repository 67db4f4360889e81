import Blockwright.Proofs.LineBreaks.Quoting

/-!
# Line terminators in quoted texts

A line of source code ends at more characters than a line feed.  The target languages
know five of them together, and a literal between double quotes may hold none.  The
literal of a text escapes two of the five and leaves the others as they are, so a
statement that quotes texts holds just those of their terminators that are neither a line
feed nor a carriage return.
-/

namespace Blockwright

namespace Text

/-- The characters that end a line of source code in some target language. -/
def lineTerminators : List Char := ['\n', '\r', '\x85', '\u2028', '\u2029']

/-- The line terminators that the literal of a text holds if the text does. -/
def unescapedTerminators : List Char := ['\x85', '\u2028', '\u2029']

theorem mem_unescapedTerminators_iff
    (c : Char) :
    c ∈ unescapedTerminators ↔ c ∈ lineTerminators ∧ c ≠ '\n' ∧ c ≠ '\r' := by
  have split : lineTerminators = '\n' :: '\r' :: unescapedTerminators := rfl
  rw [split, List.mem_cons, List.mem_cons]
  constructor
  · intro unescaped
    refine ⟨.inr (.inr unescaped), ?_, ?_⟩
    · rintro rfl
      exact absurd unescaped (by decide)
    · rintro rfl
      exact absurd unescaped (by decide)
  · rintro ⟨feed | carriage | unescaped, noFeed, noCarriage⟩
    · exact absurd feed noFeed
    · exact absurd carriage noCarriage
    · exact unescaped

/-- A text ends no line of source code, whatever the target language. -/
def Unterminated (text : Text) : Prop :=
  ∀ c ∈ lineTerminators, c ∉ text

instance (text : Text) : Decidable text.Unterminated :=
  List.decidableBAll _ lineTerminators

end Text

theorem TypeName.unterminated_of_mem_table
    (language : Language) (boxed : Bool) :
    ∀ entry ∈ table language boxed,
      Text.Unterminated entry.1.toList ∧ Text.Unterminated entry.2.toList := by
  cases language <;> cases boxed <;> decide

/-- The literals of statements that quote something hold no line terminator. -/
theorem Language.unterminated_of_quotedProperties
    (language : Language) {kind : Statement}
    (quotes : kind.quotedProperties ≠ []) :
    Text.Unterminated ((language.statement kind).fill fun _ => []) := by
  cases language <;> cases kind
  all_goals first
    | exact absurd rfl quotes
    | decide

namespace Fields

variable (fields : Fields) {c : Char}

/-- A line terminator in a slot is one of its property, and of those that a literal holds. -/
theorem terminator_mem_slot_iff
    (terminates : c ∈ Text.lineTerminators)
    (slot : Slot) :
    c ∈ fields.slot slot ↔
      (∃ property ∈ slot.raw?, c ∈ fields.text property) ∨
        c ∈ Text.unescapedTerminators ∧ ∃ property ∈ slot.quoted?, c ∈ fields.text property := by
  have plain : c ∉ ['\\', '"', 'n', 'r'] :=
    (by decide : Text.Unterminated ['\\', '"', 'n', 'r']) c terminates
  have spelled (boxed : Bool) :
      ∀ entry ∈ TypeName.table fields.language boxed,
        c ∉ entry.1.toList ∧ c ∉ entry.2.toList := by
    intro entry member
    obtain ⟨semantic, native⟩ :=
      TypeName.unterminated_of_mem_table fields.language boxed entry member
    exact ⟨semantic c terminates, native c terminates⟩
  cases slot with
  | field name => simp [Fields.slot, Slot.raw?, Slot.quoted?, Slot.property]
  | quoted name =>
      simp [Fields.slot, Slot.raw?, Slot.quoted?, Text.mem_quote_iff plain,
        Text.mem_unescapedTerminators_iff, terminates, and_comm]
  | native name | boxed name =>
      simp [Fields.slot, Slot.raw?, Slot.quoted?, Slot.property,
        TypeName.mem_spell_iff (spelled _)]

theorem terminator_mem_fill_iff
    (terminates : c ∈ Text.lineTerminators)
    {template : Template}
    (lacking : c ∉ template.fill fun _ => []) :
    c ∈ fields.fill template ↔
      (∃ property ∈ template.rawProperties, c ∈ fields.text property) ∨
        c ∈ Text.unescapedTerminators ∧
          ∃ property ∈ template.quotedProperties, c ∈ fields.text property := by
  have literals (text : Text) (inside : .literal text ∈ template) : c ∉ text := by
    intro held
    have bare : c ∈ Template.fillPiece (fun _ => []) (.literal text) := held
    exact lacking (List.mem_flatMap.2 ⟨_, inside, bare⟩)
  rw [fill, Template.mem_fill_iff literals]
  simp only [fields.terminator_mem_slot_iff terminates, Template.rawProperties,
    Template.quotedProperties, List.mem_filterMap, Option.mem_def]
  constructor
  · rintro ⟨slot, asked, ⟨property, own, held⟩ | ⟨unescaped, property, own, held⟩⟩
    · exact .inl ⟨property, ⟨slot, asked, own⟩, held⟩
    · exact .inr ⟨unescaped, property, ⟨slot, asked, own⟩, held⟩
  · rintro (⟨property, ⟨slot, asked, own⟩, held⟩ | ⟨unescaped, property, ⟨slot, asked, own⟩, held⟩)
    · exact ⟨slot, asked, .inl ⟨property, own, held⟩⟩
    · exact ⟨slot, asked, .inr ⟨unescaped, property, own, held⟩⟩

end Fields

section Statements

variable (generator : Generator) (depth : Int) {kind : Statement} {element : Element}
  (tag : element.tag? = some (.statement kind))
  (quotes : kind.quotedProperties ≠ [])
  (others :
    ∀ property ∈ (generator.language.statement kind).rawProperties,
      Text.Unterminated ((element.fields generator.language).text property))

include tag quotes others

/-- A statement that quotes texts is its template, filled behind the spaces of its depth. -/
theorem Generator.elementText_of_quotedProperties :
    generator.elementText depth element =
      generator.indent depth ++
        (element.fields generator.language).fill (generator.language.statement kind) := by
  have unbroken :
      ∀ property ∈ (generator.language.statement kind).rawProperties,
        '\n' ∉ (element.fields generator.language).text property :=
    fun property raw => others property raw '\n' (by decide)
  rw [elementText, generator.elementLines_of_quotedProperties depth tag quotes unbroken]
  exact List.intercalate_singleton

theorem Generator.terminator_mem_elementText_iff
    {c : Char}
    (terminates : c ∈ Text.lineTerminators) :
    c ∈ generator.elementText depth element ↔
      c ∈ Text.unescapedTerminators ∧
        ∃ text ∈ kind.quotedProperties.map (element.fields generator.language).text,
          c ∈ text := by
  have margin : c ∉ generator.indent depth := by
    intro member
    have space : c ∉ [' '] := (by decide : Text.Unterminated [' ']) c terminates
    exact space (List.mem_singleton.2 (List.eq_of_mem_replicate member))
  have none :
      ¬∃ property ∈ (generator.language.statement kind).rawProperties,
        c ∈ (element.fields generator.language).text property := by
    rintro ⟨property, raw, own⟩
    exact others property raw c terminates own
  rw [generator.elementText_of_quotedProperties depth tag quotes others, List.mem_append,
    Fields.terminator_mem_fill_iff _ terminates
      (generator.language.unterminated_of_quotedProperties quotes c terminates),
    generator.language.quotedProperties_statement]
  simp [margin, none]

end Statements

/--
The line terminators of a statement that quotes texts.  If its other properties hold none,
the statement holds a line feed or a carriage return in no case, and any of the three
others just if a quoted text does.  So it stays on one line of source code in all target
languages just if no quoted text holds one of these three.
-/
theorem Generator.quotedStatement_unterminated_iff
    (generator : Generator) (depth : Int)
    {kind : Statement} {element : Element}
    (tag : element.tag? = some (.statement kind))
    (quotes : kind.quotedProperties ≠ [])
    (others :
      ∀ property ∈ (generator.language.statement kind).rawProperties,
        Text.Unterminated ((element.fields generator.language).text property)) :
    let quoted := kind.quotedProperties.map (element.fields generator.language).text
    (∀ c ∈ Text.lineTerminators,
        (c ∈ generator.elementText depth element ↔
          c ∈ Text.unescapedTerminators ∧ ∃ text ∈ quoted, c ∈ text)) ∧
      (Text.Unterminated (generator.elementText depth element) ↔
        ∀ text ∈ quoted, ∀ c ∈ Text.unescapedTerminators, c ∉ text) := by
  intro quoted
  have held (c : Char) (terminates : c ∈ Text.lineTerminators) :
      c ∈ generator.elementText depth element ↔
        c ∈ Text.unescapedTerminators ∧ ∃ text ∈ quoted, c ∈ text :=
    generator.terminator_mem_elementText_iff depth tag quotes others terminates
  refine ⟨held, ?_⟩
  constructor
  · intro unterminated text member c unescaped own
    have terminates := ((Text.mem_unescapedTerminators_iff c).1 unescaped).1
    exact unterminated c terminates ((held c terminates).2 ⟨unescaped, text, member, own⟩)
  · intro free c terminates member
    obtain ⟨unescaped, text, among, own⟩ := (held c terminates).1 member
    exact free text among c unescaped own

/-- A row is split where a carriage return, a line feed and a line separator stand together. -/
def separatedRow : Element where
  type := "string.split"
  properties := [("variable", .text "row"), ("delimiter", .text "\r\n\u2028")]

theorem separatedRow_terminated :
    let generator := Generator.make .javascript .standard []
    separatedRow.tag? = some (.statement .split) ∧
      Statement.split.quotedProperties ≠ [] ∧
      (∀ property ∈ (Language.javascript.statement .split).rawProperties,
        Text.Unterminated ((separatedRow.fields .javascript).text property)) ∧
      '\n' ∉ generator.elementText 1 separatedRow ∧
      '\r' ∉ generator.elementText 1 separatedRow ∧
      '\u2028' ∈ generator.elementText 1 separatedRow := by
  intro generator
  have tag : separatedRow.tag? = some (.statement .split) := by decide
  have quotes : Statement.split.quotedProperties ≠ [] := by decide
  have others :
      ∀ property ∈ (Language.javascript.statement .split).rawProperties,
        Text.Unterminated ((separatedRow.fields .javascript).text property) := by
    decide
  have held := (generator.quotedStatement_unterminated_iff 1 tag quotes others).1
  refine ⟨tag, quotes, others, ?_, ?_, ?_⟩
  · rw [held _ (by decide)]
    decide
  · rw [held _ (by decide)]
    decide
  · rw [held _ (by decide)]
    decide

/-- A message with a line separator, which ends a line in C# and JavaScript. -/
def separatedMessage : Element where
  type := "console.writeline"
  properties := [("message", .text "a\u2028b")]

/-- The message is quoted, nothing else is written of it, and its line of C# is ended inside it. -/
theorem separatedMessage_terminated :
    let generator := Generator.make .csharp .standard []
    separatedMessage.tag? = some (.statement .writeLine) ∧
      (Language.csharp.statement .writeLine).rawProperties = [] ∧
      '\u2028' ∈ Text.lineTerminators ∧
      Text.lines (generator.elementText 0 separatedMessage) =
        ["Console.WriteLine(\"a".toList, "b\");".toList] ∧
      '\u2028' ∈ generator.elementText 0 separatedMessage := by
  decide +kernel

end Blockwright
