import Blockwright.Proofs.Guarded.Spelling

/-!
# Guarded slots

The writer of source files looks things up: templates by the name of an element
type or of a header, type names and defaults by the language, properties by their
name.  The writer of these modules does the same and stops where a table has no
entry, where a dollar sign introduces no slot, and where a slot would be left
without a text.  Here it fills templates, and always writes what `Fields` writes.
-/

namespace Blockwright

/-- A step of writing that a class of writers provides or leaves to the classes it extends. -/
inductive Step where
  | file
  | method
  | clauses
  | doWhile
  | switch
  | utilityName
  deriving DecidableEq, Repr

/-- Why a guarded writer stops. -/
inductive Lack where
  /-- A table has no entry under a name. -/
  | entry (name : String)
  /-- A dollar sign of a template introduces no slot. -/
  | placeholder (fault : Template.Fault)
  /-- A property is neither set nor declared. -/
  | property (name : Text)
  /-- A slot that is not quoted is filled by the empty text. -/
  | hole (slot : Slot)
  /-- No class of the writer provides a step. -/
  | step (step : Step)
  /-- There is no last line to write over. -/
  | lastLine
  deriving DecidableEq, Repr

theorem ok_bind
    {α β : Type} (value : α) (next : α → Except Lack β) :
    (Except.ok value >>= next) = next value :=
  rfl

/-- The entry of a table under a name. -/
def lookUp {α : Type} (table : List (String × α)) (name : String) : Except Lack α :=
  match table.find? (·.1 = name) with
  | some (_, entry) => .ok entry
  | none => .error (.entry name)

/-- What is kept under a name is found where no other entry has that name before it. -/
theorem lookUp_map
    {α β : Type} {kinds : List β} {name : β → String} {kind : β}
    (found : kinds.find? (fun other => name other = name kind) = some kind)
    (kept : β → α) :
    lookUp (kinds.map fun other => (name other, kept other)) (name kind) = .ok (kept kind) := by
  have entry :
      (kinds.map fun other => (name other, kept other)).find? (·.1 = name kind) =
        some (name kind, kept kind) := by
    rw [List.find?_map]
    exact congrArg (Option.map _) found
  rw [lookUp, entry]

namespace Language

/-- The table of what is kept for each language. -/
def table {α : Type} (kept : Language → α) : List (String × α) :=
  all.map fun language => (language.name, kept language)

theorem lookUp_table
    {α : Type} (kept : Language → α) (language : Language) :
    lookUp (table kept) language.name = .ok (kept language) := by
  have found : all.find? (·.name = language.name) = some language := by
    cases language <;> decide
  exact lookUp_map found kept

/-- The templates of statements, by the names of the element types. -/
def statementTable (language : Language) : List (String × Text) := [
  ("console.writeline", (language.statement .writeLine).spell),
  ("console.write", (language.statement .write).spell),
  ("console.readkey", (language.statement .readKey).spell),
  ("console.readline", (language.statement .readLine).spell),
  ("debug.print", (language.statement .debugPrint).spell),
  ("trace.write", (language.statement .traceWrite).spell),
  ("break", (language.statement .breakLoop).spell),
  ("continue", (language.statement .continueLoop).spell),
  ("ternary", (language.statement .ternary).spell),
  ("variable", (language.statement .variable).spell),
  ("constant", (language.statement .constant).spell),
  ("array", (language.statement .array).spell),
  ("list", (language.statement .list).spell),
  ("dictionary", (language.statement .dictionary).spell),
  ("return", (language.statement .returnValue).spell),
  ("string", (language.statement .string).spell),
  ("int", (language.statement .int).spell),
  ("long", (language.statement .long).spell),
  ("float", (language.statement .float).spell),
  ("double", (language.statement .double).spell),
  ("decimal", (language.statement .decimal).spell),
  ("bool", (language.statement .bool).spell),
  ("char", (language.statement .char).spell),
  ("byte", (language.statement .byte).spell),
  ("short", (language.statement .short).spell),
  ("math.sqrt", (language.statement .squareRoot).spell),
  ("math.pow", (language.statement .power).spell),
  ("math.abs", (language.statement .absolute).spell),
  ("math.min", (language.statement .minimum).spell),
  ("math.max", (language.statement .maximum).spell),
  ("random", (language.statement .random).spell),
  ("string.length", (language.statement .stringLength).spell),
  ("string.substring", (language.statement .substring).spell),
  ("string.split", (language.statement .split).spell),
  ("string.replace", (language.statement .replace).spell),
  ("string.tolower", (language.statement .toLower).spell),
  ("string.toupper", (language.statement .toUpper).spell),
  ("string.trim", (language.statement .trim).spell),
  ("string.contains", (language.statement .contains).spell),
  ("try-catch", (language.statement .tryCatch).spell),
  ("try-catch-finally", (language.statement .tryCatchFinally).spell),
  ("throw", (language.statement .throwException).spell)]

/-- The headers of blocks, by the names that blocks know them by. -/
def headerTable (language : Language) : List (String × Text) := [
  ("for", language.headers.counting.spell),
  ("foreach", language.headers.forEach.spell),
  ("while", language.headers.whileLoop.spell),
  ("do", language.headers.doOpening),
  ("do-while", language.headers.doClosing.spell),
  ("if", language.headers.conditional.spell),
  ("if-first", language.headers.firstCondition.spell),
  ("else-if", language.headers.secondCondition.spell),
  ("else", language.headers.otherwise),
  ("switch", language.headers.switch.spell),
  ("case", language.headers.case.spell)]

/-- The sources of utilities, by the names of the element types. -/
def utilityTable (language : Language) : List (String × Text) := [
  ("is-even", language.utilitySource .isEven),
  ("is-odd", language.utilitySource .isOdd),
  ("is-prime", language.utilitySource .isPrime),
  ("factorial", language.utilitySource .factorial),
  ("fibonacci", language.utilitySource .fibonacci),
  ("reverse-string", language.utilitySource .reverseString),
  ("is-palindrome", language.utilitySource .isPalindrome),
  ("swap", language.utilitySource .swap),
  ("decimal-to-binary", language.utilitySource .decimalToBinary),
  ("binary-to-decimal", language.utilitySource .binaryToDecimal),
  ("decimal-to-hex", language.utilitySource .decimalToHex),
  ("celsius-to-fahrenheit", language.utilitySource .celsiusToFahrenheit),
  ("fahrenheit-to-celsius", language.utilitySource .fahrenheitToCelsius),
  ("validate-email", language.utilitySource .validateEmail),
  ("validate-password", language.utilitySource .validatePassword),
  ("validate-url", language.utilitySource .validateUrl),
  ("validate-date", language.utilitySource .validateDate),
  ("is-numeric", language.utilitySource .isNumeric)]

theorem lookUp_statementTable
    (language : Language) (kind : Statement) :
    lookUp language.statementTable kind.name = .ok (language.statement kind).spell := by
  cases kind <;> rfl

theorem lookUp_utilityTable
    (language : Language) (kind : Utility) :
    lookUp language.utilityTable kind.name = .ok (language.utilitySource kind) := by
  cases kind <;> rfl

theorem legible_of_mem_templates
    {language : Language} {tag : Tag} {template : Template}
    (written : template ∈ language.templates tag) :
    template.Legible := by
  cases tag with
  | statement kind =>
      rw [templates, List.mem_singleton] at written
      rw [written]
      exact language.legible_statement kind
  | block kind => exact language.legible_templates kind template written
  | utility kind => exact absurd written List.not_mem_nil

end Language

/-! ## Values -/

/-- The spellings that Python has of keywords, by their spelling elsewhere. -/
def pythonKeywords : List (String × Text) :=
  [("true", "True"), ("false", "False"), ("null", "None")]

/-- The name under which a keyword's spelling is looked up. -/
def Keyword.name : Keyword → String
  | .truth => "true"
  | .falsity => "false"
  | .null => "null"

/-- The spelling of a keyword, looked up where the language has spellings of its own. -/
def Keyword.guardedSpell (language : Language) (keyword : Keyword) : Except Lack Text :=
  if language = .python then lookUp pythonKeywords keyword.name else .ok keyword.name.toList

theorem Keyword.guardedSpell_eq
    (language : Language) (keyword : Keyword) :
    keyword.guardedSpell language = .ok (keyword.spell language) := by
  cases language <;> cases keyword <;> rfl

/-- The spelling of a default value. -/
def Default.guardedSpell (language : Language) : Default → Except Lack Text
  | .keyword value => value.guardedSpell language
  | other => .ok (other.spell language)

theorem Default.guardedSpell_eq
    (language : Language) (value : Default) :
    value.guardedSpell language = .ok (value.spell language) := by
  cases value with
  | keyword value => exact value.guardedSpell_eq language
  | text value | identifier name => rfl

/-- The text of a value. -/
def Document.guardedText (language : Language) : Document → Except Lack Text
  | .bool value => (if value then Keyword.truth else Keyword.falsity).guardedSpell language
  | other => .ok (other.scalarText language)

theorem Document.guardedText_eq
    (language : Language) (value : Document) :
    value.guardedText language = .ok (value.scalarText language) := by
  cases value with
  | bool value => exact Keyword.guardedSpell_eq language _
  | null | integer number | number number | text text | list items | mapping entries => rfl

/-- The spelling of a type name, by the language's table of type names. -/
def TypeName.guardedSpell
    (language : Language) (boxed : Bool) (name : Text) : Except Lack Text := do
  let names ← lookUp (Language.table fun language => TypeName.table language boxed) language.name
  match names.find? fun (known, _) => known.toList = name with
  | some (_, spelling) => return spelling
  | none => return name

theorem TypeName.guardedSpell_eq
    (language : Language) (boxed : Bool) (name : Text) :
    guardedSpell language boxed name = .ok (spell language boxed name) := by
  rw [guardedSpell, Language.lookUp_table, ok_bind, spell]
  cases (table language boxed).find? fun (known, _) => known.toList = name <;> rfl

/-- The text that fills a slot, which may be empty between quotes alone. -/
def Slot.require (slot : Slot) (text : Text) : Except Lack Text :=
  if slot.raw?.isSome && text.isEmpty then .error (.hole slot) else .ok text

namespace Fields

variable (fields : Fields)

/-- The text of a property, which must be set or declared. -/
def guardedText (property : Text) : Except Lack Text := do
  match fields.set? property with
  | some value => value.guardedText fields.language
  | none =>
      let overrides ← lookUp (Language.table Language.overrides) fields.language.name
      let declared := (Tag.ofName? fields.type).bind fun tag =>
        ((overrides tag).get? property).or (tag.defaults.get? property)
      match declared with
      | some value => value.guardedSpell fields.language
      | none => throw (.property property)

/-- What a slot asks for. -/
def guardedSlot : Slot → Except Lack Text
  | .field name => fields.guardedText name
  | .quoted name => return Text.quote (← fields.guardedText name)
  | .native name => do
      TypeName.guardedSpell fields.language false (← fields.guardedText name)
  | .boxed name => do
      TypeName.guardedSpell fields.language true (← fields.guardedText name)

/-- The text that fills a slot when some names are given texts of their own. -/
def guardedSlotWith (extra : List (Text × Text)) (slot : Slot) : Except Lack Text := do
  match extra.find? (·.1 = slot.key) with
  | some (_, text) => slot.require text
  | none => slot.require (← fields.guardedSlot slot)

/-- The two texts that headers of counting loops use, from the texts of four properties. -/
def countingTexts (counter start stop increment : Text) : List (Text × Text) :=
  if increment = "1" then
    [("step", counter ++ "++"), ("range", "range(" ++ (start ++ ", " ++ stop) ++ ")")]
  else
    [("step", counter ++ " += " ++ increment),
      ("range", "range(" ++ (start ++ ", " ++ stop ++ ", " ++ increment) ++ ")")]

def guardedLoopTexts : Except Lack (List (Text × Text)) := do
  let counter ← fields.guardedText "variable"
  let start ← fields.guardedText "start"
  let stop ← fields.guardedText "end"
  let increment ← fields.guardedText "increment"
  return countingTexts counter start stop increment

end Fields

/-- The text of a template whose slots are filled in order. -/
def Template.guardedFill (value : Slot → Except Lack Text) : Template → Except Lack Text
  | [] => return []
  | .literal text :: others => return text ++ (← guardedFill value others)
  | .slot slot :: others => return (← value slot) ++ (← guardedFill value others)

theorem Template.guardedFill_eq
    {guarded : Slot → Except Lack Text} {value : Slot → Text} {template : Template}
    (fills : ∀ slot ∈ template.slots, guarded slot = .ok (value slot)) :
    template.guardedFill guarded = .ok (template.fill value) := by
  induction template with
  | nil => rfl
  | cons piece others ih =>
      cases piece with
      | literal text =>
          rw [guardedFill, ih fills]
          rfl
      | slot slot =>
          have first := fills slot List.mem_cons_self
          have rest := ih fun other member => fills other (List.mem_cons_of_mem _ member)
          rw [guardedFill, first, rest]
          rfl

/-- A template in its notation, read and filled from the properties. -/
def Fields.guardedFill
    (fields : Fields) (extra : List (Text × Text)) (spelled : Text) : Except Lack Text := do
  let template ← (Template.read spelled).mapError .placeholder
  template.guardedFill (fields.guardedSlotWith extra)

/-! ## Nothing is missed -/

theorem Tag.exists_default?
    {tag : Tag} {property : Text}
    (declared : property ∈ tag.properties)
    (language : Language) :
    ∃ value, tag.default? language property = some value := by
  obtain ⟨entry, member, same⟩ := List.mem_map.1 declared
  have found : (tag.defaults.get? property).isSome := by
    rw [Defaults.get?, Option.isSome_map, List.find?_isSome]
    exact ⟨entry, member, decide_eq_true same⟩
  rw [← Option.isSome_iff_exists, default?, Option.isSome_or, found, Bool.or_true]

namespace Fields

variable {fields : Fields} {tag : Tag} (known : Tag.ofName? fields.type = some tag)

include known

theorem guardedText_eq
    {property : Text}
    (declared : property ∈ tag.properties) :
    fields.guardedText property = .ok (fields.text property) := by
  obtain ⟨value, default⟩ := Tag.exists_default? declared fields.language
  rw [guardedText, text]
  cases fields.set? property with
  | some value => exact Document.guardedText_eq fields.language value
  | none =>
      have stands :
          defaultText fields.language fields.type property = value.spell fields.language := by
        rw [defaultText, known, Option.bind_some, default]
      simp only [Tag.default?] at default
      simp only [Language.lookUp_table, ok_bind, known, Option.bind_some, default]
      rw [stands]
      exact Default.guardedSpell_eq fields.language value

theorem guardedSlot_eq
    {slot : Slot}
    (declared : slot.property ∈ tag.properties) :
    fields.guardedSlot slot = .ok (fields.slot slot) := by
  have text := guardedText_eq known declared
  cases slot with
  | field name => exact text
  | quoted name => exact congrArg (Text.quote <$> ·) text
  | native name => exact (congrArg (· >>= _) text).trans (TypeName.guardedSpell_eq _ _ _)
  | boxed name => exact (congrArg (· >>= _) text).trans (TypeName.guardedSpell_eq _ _ _)

/-- Every slot of a tag's templates is filled, and a slot that is not quoted by some text. -/
theorem guardedSlotWith_eq
    {template : Template} {slot : Slot}
    (written : template ∈ fields.language.templates tag)
    (asked : slot ∈ template.slots) :
    fields.guardedSlotWith (fields.extraTexts tag) slot =
      .ok (fields.slotWith (fields.extraTexts tag) slot) := by
  have held :
      slot.require (fields.slotWith (fields.extraTexts tag) slot) =
        .ok (fields.slotWith (fields.extraTexts tag) slot) := by
    apply if_neg
    rw [Bool.and_eq_true, not_and, List.isEmpty_iff]
    exact slotWith_ne_nil known written asked
  rw [guardedSlotWith]
  rw [slotWith] at held ⊢
  cases found : (fields.extraTexts tag).find? (·.1 = slot.key) with
  | some entry =>
      rw [found] at held
      exact held
  | none =>
      rw [found] at held
      rcases Language.declares_slot written asked with declared | ⟨rfl, extra⟩
      · rw [guardedSlot_eq known declared]
        exact held
      · exact absurd found (fields.find?_loopTexts_ne_none extra)

theorem guardedFill_spell
    {template : Template}
    (written : template ∈ fields.language.templates tag) :
    fields.guardedFill (fields.extraTexts tag) template.spell =
      .ok (template.fill (fields.slotWith (fields.extraTexts tag))) := by
  have legible := Language.legible_of_mem_templates written
  rw [guardedFill, Template.read_spell legible, ← Template.fill_spread]
  apply Template.guardedFill_eq
  intro slot asked
  rw [Template.slots_spread] at asked
  exact guardedSlotWith_eq known written asked

omit known

theorem guardedFill_statement
    (fields : Fields)
    {kind : Statement}
    (known : Tag.ofName? fields.type = some (.statement kind)) :
    fields.guardedFill [] (fields.language.statement kind).spell =
      .ok (fields.fill (fields.language.statement kind)) :=
  guardedFill_spell known List.mem_cons_self

theorem countingTexts_eq
    (fields : Fields) :
    countingTexts (fields.text "variable") (fields.text "start") (fields.text "end")
        (fields.text "increment") =
      fields.loopTexts := by
  by_cases one : fields.text "increment" = "1"
  · have step : fields.stepText = fields.text "variable" ++ "++" := if_pos one
    have range :
        fields.rangeText = "range(" ++ (fields.text "start" ++ ", " ++ fields.text "end") ++ ")" :=
      congrArg (fun bounds : Text => ("range(" ++ bounds ++ ")" : Text)) (if_pos one)
    rw [countingTexts, if_pos one, loopTexts, step, range]
  · have step :
        fields.stepText = fields.text "variable" ++ " += " ++ fields.text "increment" :=
      if_neg one
    have range :
        fields.rangeText =
          "range(" ++
            (fields.text "start" ++ ", " ++ fields.text "end" ++ ", " ++
              fields.text "increment") ++
            ")" :=
      congrArg (fun bounds : Text => ("range(" ++ bounds ++ ")" : Text)) (if_neg one)
    rw [countingTexts, if_neg one, loopTexts, step, range]

theorem guardedLoopTexts_eq
    (known : Tag.ofName? fields.type = some (.block .counting)) :
    fields.guardedLoopTexts = .ok fields.loopTexts := by
  have declared (property : Text) (member : property ∈ (Tag.block .counting).properties) :=
    guardedText_eq known member
  rw [guardedLoopTexts, declared "variable" (by decide), declared "start" (by decide),
    declared "end" (by decide), declared "increment" (by decide)]
  exact congrArg Except.ok (countingTexts_eq fields)

end Fields

end Blockwright
