import Blockwright.Dialect.Table
import Blockwright.Proofs.Braces.Scan
import Blockwright.Proofs.Elements

/-!
# Braces in templates

Every text that the library itself contributes to a file of a brace language
leads back to the count of open braces it began with: the literal parts of
templates, the headers of blocks, the sources of utilities and the default
values of properties.  What a project contributes is of two kinds.  A quoted
text may be anything at all; of a text that is written as it is we ask that it
holds no brace and no double quote, and `Element.PlainTexts` says this of all
such texts of one element.
-/

namespace Blockwright

/-! ## Properties that are written as they are -/

/-- The property that a slot writes without quoting it. -/
def Slot.raw? : Slot → Option Text
  | .quoted _ => none
  | slot => some slot.property

/-- The properties that a template writes without quoting them. -/
def Template.rawProperties (template : Template) : List Text :=
  template.slots.filterMap Slot.raw?

/-- The templates of a block's headers. -/
def Headers.templates (headers : Headers) : Block → List Template
  | .counting => [headers.counting]
  | .forEach => [headers.forEach]
  | .whileLoop => [headers.whileLoop]
  | .doWhile => [headers.doClosing]
  | .conditional => [headers.conditional]
  | .ifElse => [headers.conditional]
  | .ifElseIf => [headers.firstCondition, headers.secondCondition]
  | .switch => [headers.switch, headers.case]

/--
The properties that elements of a tag write without quoting them.  The header of
a counting loop also asks for the step, which is put together from two of them.
-/
def Language.rawProperties (language : Language) : Tag → List Text
  | .statement kind => (language.statement kind).rawProperties
  | .block .counting => ["variable", "start", "end", "increment"]
  | .block kind => (language.headers.templates kind).flatMap Template.rawProperties
  | .utility _ => []

/-- The text that a project sets for a property, if it sets one, is plain. -/
def Fields.PlainProperty (fields : Fields) (property : Text) : Prop :=
  ∀ value ∈ fields.set? property, (value.scalarText fields.language).Plain

instance (fields : Fields) (property : Text) : Decidable (fields.PlainProperty property) :=
  Option.decidableForallMem (fields.set? property)

/-- The texts that an element itself contributes to a file without quotes are plain. -/
structure Element.PlainTexts (language : Language) (element : Element) : Prop where
  type : element.tag? = none → Text.Plain element.type.toList
  properties :
    ∀ tag ∈ element.tag?, ∀ property ∈ language.rawProperties tag,
      (element.fields language).PlainProperty property

instance (language : Language) (element : Element) :
    Decidable (element.PlainTexts language) :=
  decidable_of_iff
    ((element.tag? = none → Text.Plain element.type.toList) ∧
      ∀ tag ∈ element.tag?, ∀ property ∈ language.rawProperties tag,
        (element.fields language).PlainProperty property)
    ⟨fun both => ⟨both.1, both.2⟩, fun plain => ⟨plain.type, plain.properties⟩⟩

/-! ## Type names -/

namespace TypeName

theorem plain_of_mem_table
    (language : Language) (boxed : Bool) :
    ∀ entry ∈ table language boxed, Text.Plain entry.2.toList := by
  cases language <;> cases boxed
  all_goals
    simp only [table, csharp, java, javaBoxed, javascript, python, List.forall_mem_cons]
    -- evaluation gets through a long literal only as a list of characters
    repeat rw [String.toList_ofList]
    decide

theorem spell_eq_or_mem
    (language : Language) (boxed : Bool) (name : Text) :
    spell language boxed name = name ∨
      ∃ entry ∈ table language boxed, spell language boxed name = entry.2.toList := by
  simp only [spell]
  split
  · next entry found => exact Or.inr ⟨_, List.mem_of_find?_eq_some found, rfl⟩
  · exact Or.inl rfl

theorem climbs_spell
    {name : Text} {level : Nat}
    (climbs : Climbs name level level)
    (language : Language) (boxed : Bool) :
    Climbs (spell language boxed name) level level := by
  rcases spell_eq_or_mem language boxed name with same | ⟨entry, member, spelled⟩
  · rwa [same]
  · rw [spelled]
    exact Climbs.of_plain (plain_of_mem_table language boxed entry member)

end TypeName

/-! ## Default values -/

/-- A default value leads back to where it began, in every language that keeps names as they are. -/
def Default.Level : Default → Prop
  | .text value => Balanced value.toList
  | .keyword _ => True
  | .identifier name => Balanced name.toList

theorem Statement.level_defaults
    (kind : Statement) :
    ∀ entry ∈ kind.defaults, entry.2.Level := by
  cases kind
  all_goals
    simp only [defaults, List.forall_mem_cons, List.not_mem_nil, false_imp_iff, implies_true,
      Default.Level]
  all_goals
    repeat rw [String.toList_ofList]
    decide

theorem Block.level_defaults
    (kind : Block) :
    ∀ entry ∈ kind.defaults, entry.2.Level := by
  cases kind
  all_goals
    simp only [defaults, List.forall_mem_cons, List.not_mem_nil, false_imp_iff, implies_true,
      Default.Level]
  all_goals
    repeat rw [String.toList_ofList]
    decide

theorem Language.level_overrides
    (language : Language) (tag : Tag) :
    ∀ entry ∈ language.overrides tag, entry.2.Level := by
  simp only [overrides]
  split
  all_goals
    simp only [List.forall_mem_cons, List.not_mem_nil, false_imp_iff, implies_true,
      Default.Level]
  all_goals
    repeat rw [String.toList_ofList]
    decide

theorem Defaults.mem_of_get?
    {defaults : Defaults} {property : Text} {value : Default}
    (found : defaults.get? property = some value) :
    ∃ entry ∈ defaults, entry.2 = value := by
  obtain ⟨entry, member, rfl⟩ := Option.map_eq_some_iff.1 found
  exact ⟨entry, List.mem_of_find?_eq_some member, rfl⟩

theorem Tag.level_default?
    {tag : Tag} {language : Language} {property : Text} {value : Default}
    (found : tag.default? language property = some value) :
    value.Level := by
  have tables :
      ((language.overrides tag).get? property = some value) ∨
        tag.defaults.get? property = some value := by
    simp only [default?] at found
    rcases Option.or_eq_some_iff.1 found with own | ⟨_, shared⟩
    · exact Or.inl own
    · exact Or.inr shared
  rcases tables with own | shared
  · obtain ⟨entry, member, rfl⟩ := Defaults.mem_of_get? own
    exact language.level_overrides tag entry member
  · obtain ⟨entry, member, rfl⟩ := Defaults.mem_of_get? shared
    cases tag with
    | statement kind => exact kind.level_defaults entry member
    | block kind => exact kind.level_defaults entry member
    | utility kind => exact absurd member List.not_mem_nil

theorem Default.climbs_spell
    {value : Default}
    (level : value.Level)
    {language : Language}
    (braces : language ≠ .python) :
    Balanced (value.spell language) := by
  cases value with
  | text value => exact level
  | keyword value =>
      cases value
      all_goals
        simp only [spell, Keyword.spell, if_neg braces]
        decide
  | identifier name =>
      rw [spell, if_neg braces]
      exact level

/-- The text that stands for an open property leads back to where it began. -/
theorem climbs_defaultText
    {language : Language}
    (braces : language ≠ .python)
    (type : String) (property : Text) :
    Balanced (defaultText language type property) := by
  simp only [defaultText]
  split
  · next value found =>
      obtain ⟨tag, _, found⟩ := Option.bind_eq_some_iff.1 found
      exact Default.climbs_spell (Tag.level_default? found) braces
  · exact Climbs.nil

/-! ## Filled templates -/

namespace Fields

variable {fields : Fields}

/-- The text of a property leads back to where it began if the project's own text is plain. -/
theorem climbs_text
    (braces : fields.language ≠ .python)
    {property : Text}
    (plain : fields.PlainProperty property) :
    Balanced (fields.text property) := by
  simp only [text]
  split
  · next value given => exact Climbs.of_plain (plain value given)
  · exact climbs_defaultText braces fields.type property

/-- A slot is filled by a text that leads back to where it began; a quoted slot always is. -/
theorem climbs_slot
    (braces : fields.language ≠ .python)
    {slot : Slot}
    (plain : ∀ property ∈ slot.raw?, fields.PlainProperty property) :
    Balanced (fields.slot slot) := by
  cases slot with
  | field name => exact climbs_text braces (plain name rfl)
  | quoted name => exact Climbs.quote _ 0
  | native name => exact TypeName.climbs_spell (climbs_text braces (plain name rfl)) _ false
  | boxed name => exact TypeName.climbs_spell (climbs_text braces (plain name rfl)) _ true

/-- Beside the step and the range, the slots of a counting loop are ordinary ones. -/
theorem slotWith_loopTexts_field
    {name : Text}
    (notStep : ("step" : Text) ≠ name)
    (notRange : ("range" : Text) ≠ name) :
    fields.slotWith fields.loopTexts (.field name) = fields.text name := by
  have ordinary : fields.loopTexts.find? (·.1 = (Slot.field name).key) = none := by
    refine List.find?_eq_none.2 fun entry member => ?_
    rcases List.mem_cons.1 member with rfl | member
    · exact fun same => notStep (of_decide_eq_true same)
    · rcases List.mem_singleton.1 member with rfl
      exact fun same => notRange (of_decide_eq_true same)
  simp only [slotWith]
  rw [ordinary]
  rfl

theorem climbs_stepText
    (braces : fields.language ≠ .python)
    (variablePlain : fields.PlainProperty "variable")
    (incrementPlain : fields.PlainProperty "increment") :
    Balanced fields.stepText := by
  have name := climbs_text braces variablePlain
  have increment := climbs_text braces incrementPlain
  simp only [stepText]
  split
  · exact name.append (by decide)
  · exact (name.append (by decide)).append increment

end Fields

/-- A part of a template whose literal text leads back to where it began. -/
def Piece.Level : Piece → Prop
  | .literal text => Balanced text
  | .slot _ => True

theorem Template.climbs_fill
    {value : Slot → Text} {template : Template}
    (literals : ∀ piece ∈ template, piece.Level)
    (slots : ∀ slot ∈ template.slots, Balanced (value slot)) :
    Balanced (template.fill value) := by
  induction template with
  | nil => exact Climbs.nil
  | cons piece others ih =>
      have first : Balanced (fillPiece value piece) := by
        cases piece with
        | literal text => exact literals _ List.mem_cons_self
        | slot slot => exact slots slot (by simp [Template.slots])
      have rest : Balanced (fill value others) := by
        apply ih
        · exact fun piece member => literals piece (List.mem_cons_of_mem _ member)
        · intro slot member
          apply slots
          rcases List.mem_filterMap.1 member with ⟨piece, inside, read⟩
          exact List.mem_filterMap.2 ⟨piece, List.mem_cons_of_mem _ inside, read⟩
      exact first.append rest

/-! ## Dialects -/

namespace Language

variable {language : Language}

theorem level_statement
    (braces : language ≠ .python)
    (kind : Statement) :
    ∀ piece ∈ language.statement kind, piece.Level := by
  cases language with
  | python => exact absurd rfl braces
  | csharp | java | javascript =>
      cases kind
      all_goals
        simp only [statement, Dialect.CSharp.statement, Dialect.Java.statement,
          Dialect.JavaScript.statement, Template.field, Template.quoted, Template.native,
          Template.boxed, Template.verbatim, List.map_cons, List.map_nil, List.forall_mem_cons,
          List.not_mem_nil, false_imp_iff, implies_true, Piece.Level]
        repeat rw [String.toList_ofList]
        decide

theorem level_templates
    (braces : language ≠ .python)
    (kind : Block) :
    ∀ template ∈ language.headers.templates kind, ∀ piece ∈ template, piece.Level := by
  cases language with
  | python => exact absurd rfl braces
  | csharp | java | javascript =>
      cases kind
      all_goals
        simp only [headers, Headers.templates, Dialect.CSharp.headers, Dialect.Java.headers,
          Dialect.JavaScript.headers, Template.field, Template.native, List.forall_mem_cons,
          List.not_mem_nil, false_imp_iff, implies_true, Piece.Level]
        repeat rw [String.toList_ofList]
        decide

theorem climbs_doOpening
    (braces : language ≠ .python) :
    Balanced language.headers.doOpening := by
  cases language with
  | python => exact absurd rfl braces
  | csharp | java | javascript => decide

theorem climbs_otherwise
    (braces : language ≠ .python) :
    Balanced language.headers.otherwise := by
  cases language with
  | python => exact absurd rfl braces
  | csharp | java | javascript => decide

theorem mem_countingSlots
    (braces : language ≠ .python) :
    ∀ slot ∈ language.headers.counting.slots,
      slot ∈ [Slot.field "variable", .field "start", .field "end", .field "step"] := by
  cases language with
  | python => exact absurd rfl braces
  | csharp | java | javascript => decide

set_option maxRecDepth 10000 in
/-- The source of a utility closes what it opens. -/
theorem climbs_utilitySource
    (braces : language ≠ .python)
    (utility : Utility) :
    Balanced (language.utilitySource utility) := by
  cases language with
  | python => exact absurd rfl braces
  | csharp | java | javascript =>
      cases utility
      all_goals
        simp only [utilitySource, utilityLines, Dialect.CSharp.utility, Dialect.Java.utility,
          Dialect.JavaScript.utility, List.map_cons, List.map_nil]
        repeat rw [String.toList_ofList]
        decide

/-- The name of a utility is plain in every language. -/
theorem plain_utilityName
    (language : Language) (utility : Utility) :
    (language.utilityName utility).Plain := by
  cases language <;> cases utility
  all_goals
    simp only [utilityName, Utility.name]
    repeat rw [String.toList_ofList]
    decide

end Language

end Blockwright
