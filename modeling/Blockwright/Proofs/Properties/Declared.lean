import Blockwright.Proofs.Braces.Templates

/-!
# Declared properties

An element type declares its properties in the table of defaults.  The templates
of all languages ask for declared properties alone, and a declared property that
is written as it is always has a text: the project sets one that is not empty, or
else the default stands for it.  Whatever a project sets, leaves open or sets to
null, no slot is left as a hole.

A quoted slot may well be empty, since its quotes are written in any case.  Two
slots of counting loops ask for no property; their texts are put together from
the declared ones.
-/

namespace Blockwright

/-- The properties that elements of a tag declare. -/
def Tag.properties (tag : Tag) : List Text :=
  tag.defaults.map (·.1.toList)

/-- The templates from which elements of a tag are written. -/
def Language.templates (language : Language) : Tag → List Template
  | .statement kind => [language.statement kind]
  | .block kind => language.headers.templates kind
  | .utility _ => []

/-- The texts beside the properties that the templates of a tag use. -/
def Fields.extraTexts (fields : Fields) : Tag → List (Text × Text)
  | .block .counting => fields.loopTexts
  | _ => []

/-- The names of the texts that headers of counting loops use beside the properties. -/
def loopNames : List Text := ["step", "range"]

/-- The default of a property has a text of its own in a language. -/
def Tag.Fills (tag : Tag) (language : Language) (property : Text) : Prop :=
  ∃ value ∈ tag.default? language property, value.spell language ≠ []

instance (tag : Tag) (language : Language) (property : Text) :
    Decidable (tag.Fills language property) :=
  Option.decidableExistsMem (tag.default? language property)

/-! ## Tables -/

namespace Language

set_option maxRecDepth 10000 in
theorem declares_statement
    (language : Language) (kind : Statement) :
    ∀ slot ∈ (language.statement kind).slots,
      slot.property ∈ (Tag.statement kind).properties := by
  cases language <;> cases kind
  all_goals decide

theorem declares_header
    (language : Language) (kind : Block) :
    ∀ template ∈ language.headers.templates kind, ∀ slot ∈ template.slots,
      slot.property ∈ (Tag.block kind).properties ∨
        kind = .counting ∧ slot.key ∈ loopNames := by
  cases language <;> cases kind
  all_goals decide

/-- A template asks for declared properties, and for the two texts of a counting loop. -/
theorem declares_slot
    {language : Language} {tag : Tag} {template : Template} {slot : Slot}
    (written : template ∈ language.templates tag)
    (asked : slot ∈ template.slots) :
    slot.property ∈ tag.properties ∨
      tag = .block .counting ∧ slot.key ∈ loopNames := by
  cases tag with
  | statement kind =>
      rw [templates, List.mem_singleton] at written
      rw [written] at asked
      exact .inl (language.declares_statement kind slot asked)
  | block kind =>
      rcases language.declares_header kind template written slot asked with
        declared | ⟨rfl, extra⟩
      · exact .inl declared
      · exact .inr ⟨rfl, extra⟩
  | utility kind => exact absurd written List.not_mem_nil

set_option maxRecDepth 10000 in
theorem fills_statement
    (language : Language) (kind : Statement) :
    ∀ property ∈ language.rawProperties (.statement kind),
      (Tag.statement kind).Fills language property := by
  cases language <;> cases kind
  all_goals decide

theorem fills_block
    (language : Language) (kind : Block) :
    ∀ property ∈ language.rawProperties (.block kind),
      (Tag.block kind).Fills language property := by
  cases language <;> cases kind
  all_goals decide

/-- What a tag writes as it is has a default that is not empty. -/
theorem fills_rawProperties
    {language : Language} {tag : Tag} {property : Text}
    (raw : property ∈ language.rawProperties tag) :
    tag.Fills language property := by
  cases tag with
  | statement kind => exact language.fills_statement kind property raw
  | block kind => exact language.fills_block kind property raw
  | utility kind => exact absurd raw List.not_mem_nil

end Language

/-! ## Texts of values -/

theorem Keyword.spell_ne_nil
    (language : Language) (keyword : Keyword) :
    keyword.spell language ≠ [] := by
  cases language <;> cases keyword <;> decide

namespace Binary64

theorem positional_ne_nil
    (digits : Text) (magnitude : Int) :
    positional digits magnitude ≠ [] := by
  simp only [positional]
  split
  · simp
  · split <;> simp

theorem scientific_ne_nil
    (digits : Text) (magnitude : Int) :
    scientific digits magnitude ≠ [] := by
  simp [scientific]

theorem text_ne_nil
    (number : Binary64) :
    number.text ≠ [] := by
  cases number with
  | nan => decide
  | infinity negative => cases negative <;> decide
  | finite negative significand exponent =>
      simp only [text]
      split
      · exact List.cons_ne_nil _ _
      · split
        · decide
        · split
          · exact positional_ne_nil _ _
          · exact scientific_ne_nil _ _
end Binary64

namespace Document

theorem integerText_ne_nil
    (number : Int) :
    integerText number ≠ [] := by
  simp only [integerText]
  split
  · exact List.cons_ne_nil _ _
  · exact Nat.toDigits_ne_nil

theorem scalarText_ne_nil
    {value : Document}
    (given : value.isOpen = false)
    (language : Language) :
    value.scalarText language ≠ [] := by
  cases value with
  | null => exact absurd given (by decide)
  | bool value => exact Keyword.spell_ne_nil language _
  | integer value => exact integerText_ne_nil value
  | number value => exact value.text_ne_nil
  | text value => simpa [isOpen, scalarText, plain] using given
  | list items => exact List.cons_ne_nil _ _
  | mapping entries => exact List.cons_ne_nil _ _

end Document

theorem TypeName.written_of_mem_table
    (language : Language) (boxed : Bool) :
    ∀ entry ∈ table language boxed, entry.2.toList ≠ [] := by
  cases language <;> cases boxed <;> decide

theorem TypeName.spell_ne_nil
    {name : Text}
    (written : name ≠ [])
    (language : Language) (boxed : Bool) :
    spell language boxed name ≠ [] := by
  rcases spell_eq_or_mem language boxed name with same | ⟨entry, member, spelled⟩
  · rwa [same]
  · rw [spelled]
    exact written_of_mem_table language boxed entry member

/-! ## Slots -/

theorem Template.mem_slots
    {template : Template} {slot : Slot}
    (member : .slot slot ∈ template) :
    slot ∈ template.slots :=
  List.mem_filterMap.2 ⟨.slot slot, member, rfl⟩

/-- The properties that a template of a tag writes as they are, apart from two texts of loops. -/
theorem Language.mem_rawProperties
    {language : Language} {tag : Tag} {template : Template} {slot : Slot} {property : Text}
    (written : template ∈ language.templates tag)
    (asked : slot ∈ template.slots)
    (raw : slot.raw? = some property) :
    property ∈ language.rawProperties tag ∨
      tag = .block .counting ∧ slot.key ∈ loopNames := by
  have own : property ∈ template.rawProperties :=
    List.mem_filterMap.2 ⟨slot, asked, raw⟩
  cases tag with
  | statement kind =>
      rw [templates, List.mem_singleton] at written
      rw [written] at own
      exact .inl own
  | block kind =>
      cases kind with
      | counting =>
          have same : slot.property = property := by
            cases slot with
            | quoted name => exact absurd raw (by simp [Slot.raw?])
            | field name | native name | boxed name => exact Option.some.inj raw
          have declared := declares_slot written asked
          rw [same] at declared
          exact declared
      | forEach | whileLoop | doWhile | conditional | ifElse | ifElseIf | switch =>
          exact .inl (List.mem_flatMap.2 ⟨template, written, own⟩)
  | utility kind => exact absurd written List.not_mem_nil

namespace Fields

variable {fields : Fields} {tag : Tag}

theorem text_ne_nil
    (known : Tag.ofName? fields.type = some tag)
    {property : Text}
    (fills : tag.Fills fields.language property) :
    fields.text property ≠ [] := by
  simp only [text]
  split
  · next value given =>
      have kept := (Option.filter_eq_some_iff.1 given).2
      exact Document.scalarText_ne_nil (by simpa using kept) fields.language
  · obtain ⟨value, default, written⟩ := fills
    simpa [defaultText, known, Option.mem_def.1 default] using written

theorem slot_ne_nil
    (known : Tag.ofName? fields.type = some tag)
    {slot : Slot} {property : Text}
    (raw : slot.raw? = some property)
    (fills : tag.Fills fields.language property) :
    fields.slot slot ≠ [] := by
  have written := text_ne_nil known fills
  cases slot with
  | quoted name => exact absurd raw (by simp [Slot.raw?])
  | field name =>
      obtain rfl : name = property := Option.some.inj raw
      exact written
  | native name =>
      obtain rfl : name = property := Option.some.inj raw
      exact TypeName.spell_ne_nil written fields.language false
  | boxed name =>
      obtain rfl : name = property := Option.some.inj raw
      exact TypeName.spell_ne_nil written fields.language true

/-- Headers of counting loops find their two texts. -/
theorem find?_loopTexts_ne_none
    (fields : Fields)
    {name : Text}
    (extra : name ∈ loopNames) :
    fields.loopTexts.find? (·.1 = name) ≠ none := by
  have names : fields.loopTexts.map (·.1) = loopNames := rfl
  rw [← names] at extra
  obtain ⟨entry, member, same⟩ := List.mem_map.1 extra
  intro missed
  exact List.find?_eq_none.1 missed entry member (decide_eq_true same)

theorem stepText_ne_nil :
    fields.stepText ≠ [] := by
  simp only [stepText]
  split
  · exact List.append_ne_nil_of_right_ne_nil _ (by decide)
  · exact List.append_ne_nil_of_left_ne_nil
      (List.append_ne_nil_of_right_ne_nil _ (by decide)) _

theorem rangeText_ne_nil :
    fields.rangeText ≠ [] :=
  List.append_ne_nil_of_right_ne_nil _ (by decide)

theorem loopText_ne_nil
    {entry : Text × Text}
    (member : entry ∈ fields.loopTexts) :
    entry.2 ≠ [] := by
  rcases List.mem_cons.1 member with rfl | member
  · exact stepText_ne_nil
  · rcases List.mem_singleton.1 member with rfl
    exact rangeText_ne_nil

/-- A slot that is not quoted is filled by a text that is not empty, whatever the project sets. -/
theorem slotWith_ne_nil
    (known : Tag.ofName? fields.type = some tag)
    {template : Template} {slot : Slot}
    (written : template ∈ fields.language.templates tag)
    (asked : slot ∈ template.slots)
    (unquoted : slot.raw?.isSome) :
    fields.slotWith (fields.extraTexts tag) slot ≠ [] := by
  obtain ⟨property, raw⟩ := Option.isSome_iff_exists.1 unquoted
  simp only [slotWith]
  split
  · next name text found =>
      have member := List.mem_of_find?_eq_some found
      simp only [extraTexts] at member
      split at member
      · exact loopText_ne_nil member
      · exact absurd member List.not_mem_nil
  · next ordinary =>
      rcases Language.mem_rawProperties written asked raw with own | ⟨rfl, extra⟩
      · exact slot_ne_nil known raw (Language.fills_rawProperties own)
      · exact absurd ordinary (fields.find?_loopTexts_ne_none extra)

end Fields

end Blockwright
