import Blockwright.Proofs.Indentation.Texts
import Blockwright.Proofs.LineBreaks.Texts
import Blockwright.Proofs.Width

/-!
# Quoted texts in statements

A statement that quotes properties is written on one line, whatever the quoted
texts are, and its line determines them.  A literal can be read back with anything
behind it, so the texts of a filled template are recovered from the front to the
back: what is not quoted is known and passed over, and what is quoted is read.

The literal is a code for each character.  It is also what four replacements in
the whole text make of it, if the backslash is replaced first.
-/

namespace Blockwright

/-! ## Literals -/

namespace Text

/-- A text with another in the place of each occurrence of a character. -/
def replaceChar (c : Char) (replacement text : Text) : Text :=
  text.flatMap fun d => if d = c then replacement else [d]

/-- A literal's contents as four replacements, the one of the backslash first. -/
def escapeByReplacing (text : Text) : Text :=
  replaceChar '\r' ['\\', 'r']
    (replaceChar '\n' ['\\', 'n']
      (replaceChar '"' ['\\', '"']
        (replaceChar '\\' ['\\', '\\'] text)))

theorem escapeByReplacing_plain
    {c : Char}
    (notBackslash : c ≠ '\\')
    (notQuote : c ≠ '"')
    (notFeed : c ≠ '\n')
    (notReturn : c ≠ '\r') :
    escapeByReplacing [c] = [c] := by
  simp [escapeByReplacing, replaceChar, notBackslash, notQuote, notFeed, notReturn]

theorem escapeByReplacing_singleton
    (c : Char) :
    escapeByReplacing [c] = escape c := by
  simp only [escape]
  split
  · decide
  · decide
  · decide
  · decide
  · next notBackslash notQuote notFeed notReturn =>
      exact escapeByReplacing_plain notBackslash notQuote notFeed notReturn

/-- Replacing in the whole text is writing the code of each character. -/
theorem quote_eq_escapeByReplacing
    (text : Text) :
    quote text = '"' :: (escapeByReplacing text ++ ['"']) := by
  have each (c : Char) := escapeByReplacing_singleton c
  simp only [escapeByReplacing, replaceChar, List.flatMap_assoc, List.flatMap_singleton] at each ⊢
  rw [quote]
  simp only [each]

/-- Literals are equal only if their texts are, whatever stands behind them. -/
theorem quote_append_inj
    {first second rest others : Text}
    (same : quote first ++ rest = quote second ++ others) :
    first = second ∧ rest = others := by
  have read := unquote_quote_append first rest
  rw [same, unquote_quote_append] at read
  obtain ⟨rfl, rfl⟩ := Prod.mk.inj (Option.some.inj read)
  exact ⟨rfl, rfl⟩

end Text

/-! ## Quoted properties -/

/-- The property that a slot writes between quotes. -/
def Slot.quoted? : Slot → Option Text
  | .quoted name => some name
  | _ => none

/-- The properties that a template writes between quotes. -/
def Template.quotedProperties (template : Template) : List Text :=
  template.slots.filterMap Slot.quoted?

/-- The properties of a statement that every language writes between quotes. -/
def Statement.quotedProperties : Statement → List Text
  | .writeLine | .write | .debugPrint | .traceWrite | .throwException => ["message"]
  | .split => ["delimiter"]
  | .replace => ["oldValue", "newValue"]
  | .contains => ["value"]
  | _ => []

namespace Language

set_option maxRecDepth 10000 in
theorem quotedProperties_statement
    (language : Language) (kind : Statement) :
    (language.statement kind).quotedProperties = kind.quotedProperties := by
  cases language <;> cases kind <;> decide

theorem unbroken_of_quotedProperties
    (language : Language) {kind : Statement}
    (quotes : kind.quotedProperties ≠ []) :
    ∀ piece ∈ language.statement kind, piece.Unbroken := by
  cases language <;> cases kind
  all_goals first
    | exact absurd rfl quotes
    | decide

/-- A statement that quotes something begins with a text of the language. -/
theorem flush_of_quotedProperties
    (language : Language) {kind : Statement}
    (quotes : kind.quotedProperties ≠ [])
    (fields : Fields) :
    (fields.fill (language.statement kind)).Flush := by
  cases language <;> cases kind
  all_goals first
    | exact absurd rfl quotes
    | exact Template.flush_fill (by decide)

end Language

namespace Fields

/-- Templates are filled alike only if what they quote is the same. -/
theorem text_eq_of_fill_eq
    {first second : Fields} {template : Template}
    (raw : ∀ slot ∈ template.slots, slot.raw?.isSome → first.slot slot = second.slot slot)
    (same : first.fill template = second.fill template) :
    ∀ property ∈ template.quotedProperties, first.text property = second.text property := by
  induction template with
  | nil => simp [Template.quotedProperties, Template.slots]
  | cons piece others ih =>
      simp only [fill, Template.fill, List.flatMap_cons] at same
      cases piece with
      | literal text =>
          exact ih raw (List.append_cancel_left same)
      | slot slot =>
          have others (inner : Slot) (asked : inner ∈ Template.slots others) :=
            raw inner (List.mem_cons_of_mem _ asked)
          cases slot with
          | quoted name =>
              obtain ⟨text, rest⟩ := Text.quote_append_inj same
              exact List.forall_mem_cons.2 ⟨text, ih others rest⟩
          | field name | native name | boxed name =>
              have own := raw _ List.mem_cons_self rfl
              simp only [Template.fillPiece, own] at same
              exact ih others (List.append_cancel_left same)

/-- Equal texts fill a slot alike in one language, unless the slot quotes them. -/
theorem slot_eq_of_text_eq
    {first second : Fields}
    (language : first.language = second.language)
    {slot : Slot}
    (unquoted : slot.raw?.isSome)
    (texts : ∀ property ∈ slot.raw?, first.text property = second.text property) :
    first.slot slot = second.slot slot := by
  cases slot with
  | quoted name => exact absurd unquoted Bool.false_ne_true
  | field name => exact texts name rfl
  | native name | boxed name =>
      have own : first.text name = second.text name := texts name rfl
      simp only [Fields.slot, language, own]

end Fields

/-! ## Statements -/

namespace Generator

variable (generator : Generator) (depth : Int)

/-- A statement that quotes something stands on one line, unless another property breaks it. -/
theorem elementLines_of_quotedProperties
    {element : Element} {kind : Statement}
    (tag : element.tag? = some (.statement kind))
    (quotes : kind.quotedProperties ≠ [])
    (unbroken :
      ∀ property ∈ (generator.language.statement kind).rawProperties,
        '\n' ∉ (element.fields generator.language).text property) :
    generator.elementLines depth element =
      [generator.indent depth ++
        (element.fields generator.language).fill (generator.language.statement kind)] := by
  have outline := element.outline_eq generator.setting depth
  rw [tag] at outline
  have begins :=
    (Text.flush_iff _).1
      (generator.language.flush_of_quotedProperties quotes (element.fields generator.language))
  have whole :
      '\n' ∉ (element.fields generator.language).fill (generator.language.statement kind) := by
    rw [Fields.newline_mem_fill_iff _ (generator.language.unbroken_of_quotedProperties quotes)]
    rintro ⟨property, raw, broken⟩
    exact unbroken property raw broken
  rw [elementLines, outline]
  simp only [Outline.Setting.lines, render_map_line]
  exact Layout.lines_of_flush whole begins.2 begins.1

/-- Statements of one type that agree in what they do not quote are written by what they quote. -/
theorem text_eq_of_elementLines_eq
    {first second : Element} {kind : Statement}
    (firstTag : first.tag? = some (.statement kind))
    (secondTag : second.tag? = some (.statement kind))
    (unbroken :
      ∀ property ∈ (generator.language.statement kind).rawProperties,
        '\n' ∉ (first.fields generator.language).text property)
    (unquoted :
      ∀ property ∈ (generator.language.statement kind).rawProperties,
        (first.fields generator.language).text property =
          (second.fields generator.language).text property)
    (same : generator.elementLines depth first = generator.elementLines depth second) :
    ∀ property ∈ kind.quotedProperties,
      (first.fields generator.language).text property =
        (second.fields generator.language).text property := by
  intro property quoted
  have quotes : kind.quotedProperties ≠ [] := List.ne_nil_of_mem quoted
  have alsoUnbroken :
      ∀ property ∈ (generator.language.statement kind).rawProperties,
        '\n' ∉ (second.fields generator.language).text property := by
    intro property raw
    rw [← unquoted property raw]
    exact unbroken property raw
  rw [generator.elementLines_of_quotedProperties depth firstTag quotes unbroken,
    generator.elementLines_of_quotedProperties depth secondTag quotes alsoUnbroken] at same
  have fills := List.append_cancel_left (List.singleton_inj.1 same)
  have raw :
      ∀ slot ∈ (generator.language.statement kind).slots, slot.raw?.isSome →
        (first.fields generator.language).slot slot =
          (second.fields generator.language).slot slot := by
    intro slot asked some
    have sameLanguage :
        (first.fields generator.language).language =
          (second.fields generator.language).language :=
      rfl
    apply Fields.slot_eq_of_text_eq sameLanguage some
    intro property own
    exact unquoted property (List.mem_filterMap.2 ⟨slot, asked, own⟩)
  rw [← generator.language.quotedProperties_statement kind] at quoted
  exact Fields.text_eq_of_fill_eq raw fills property quoted

end Generator

/--
Quoted texts survive generation.  A literal stands on one line and is read back
whole, with any text behind it; it is the text with four replacements made in order.
The statements that quote properties quote the same ones in every language.  Such a
statement is written on one line if its other properties hold no line feed, and two
of them that agree in the others are written alike only if all quoted texts agree.
-/
theorem Generator.quotedTexts_recoverable :
    (∀ text rest : Text,
        '\n' ∉ Text.quote text ∧
          '\r' ∉ Text.quote text ∧
          Text.quote text = '"' :: (Text.escapeByReplacing text ++ ['"']) ∧
          Text.unquote (Text.quote text ++ rest) = some (text, rest)) ∧
      (∀ (language : Language) (kind : Statement),
        (language.statement kind).quotedProperties = kind.quotedProperties) ∧
      ∀ (generator : Generator) (depth : Int) (kind : Statement),
        kind.quotedProperties ≠ [] →
          ∀ element : Element,
            element.tag? = some (.statement kind) →
              (∀ property ∈ (generator.language.statement kind).rawProperties,
                '\n' ∉ (element.fields generator.language).text property) →
                (generator.elementLines depth element).length = 1 ∧
                  ∀ other : Element,
                    other.tag? = some (.statement kind) →
                      (∀ property ∈ (generator.language.statement kind).rawProperties,
                        (element.fields generator.language).text property =
                          (other.fields generator.language).text property) →
                        generator.elementLines depth element =
                            generator.elementLines depth other →
                          ∀ property ∈ kind.quotedProperties,
                            (element.fields generator.language).text property =
                              (other.fields generator.language).text property := by
  refine ⟨?_, Language.quotedProperties_statement, ?_⟩
  · intro text rest
    exact ⟨Text.not_mem_quote (.inl rfl) text, Text.not_mem_quote (.inr rfl) text,
      Text.quote_eq_escapeByReplacing text, Text.unquote_quote_append text rest⟩
  · intro generator depth kind quotes element tag unbroken
    constructor
    · rw [generator.elementLines_of_quotedProperties depth tag quotes unbroken]
      rfl
    · intro other otherTag unquoted same
      exact generator.text_eq_of_elementLines_eq depth tag otherTag unbroken unquoted same

/-- A replacement of the default text by one that a literal has to escape throughout. -/
def escapedReplacement : Element where
  type := "string.replace"
  properties := [("newValue", .text "\", \"\n\\")]

/-- The same replacement with the default text spelled out. -/
def spelledReplacement : Element where
  type := "string.replace"
  properties := [("newValue", .text "\", \"\n\\"), ("oldValue", .text "old")]

theorem escapedReplacement_recovered :
    let generator := Generator.make .javascript .standard []
    let escaped := escapedReplacement.fields .javascript
    let spelled := spelledReplacement.fields .javascript
    (Statement.replace.quotedProperties ≠ [] ∧
        escapedReplacement.tag? = some (.statement .replace) ∧
        spelledReplacement.tag? = some (.statement .replace) ∧
        (∀ property ∈ (Language.javascript.statement .replace).rawProperties,
          '\n' ∉ escaped.text property ∧ escaped.text property = spelled.text property) ∧
        generator.elementLines 2 escapedReplacement =
          generator.elementLines 2 spelledReplacement) ∧
      (generator.elementLines 2 escapedReplacement).length = 1 ∧
      ∀ property ∈ Statement.replace.quotedProperties,
        escaped.text property = spelled.text property := by
  intro generator escaped spelled
  have quotes : Statement.replace.quotedProperties ≠ [] := by decide
  have tag : escapedReplacement.tag? = some (.statement .replace) := by decide
  have otherTag : spelledReplacement.tag? = some (.statement .replace) := by decide
  have unquoted :
      ∀ property ∈ (Language.javascript.statement .replace).rawProperties,
        '\n' ∉ escaped.text property ∧ escaped.text property = spelled.text property := by
    decide
  have same :
      generator.elementLines 2 escapedReplacement =
        generator.elementLines 2 spelledReplacement := by
    decide +kernel
  obtain ⟨one, recovered⟩ :=
    Generator.quotedTexts_recoverable.2.2 generator 2 .replace quotes escapedReplacement tag
      fun property raw => (unquoted property raw).1
  refine ⟨⟨quotes, tag, otherTag, unquoted, same⟩, one, ?_⟩
  exact recovered spelledReplacement otherTag (fun property raw => (unquoted property raw).2) same

end Blockwright
