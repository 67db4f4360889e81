import Blockwright.Proofs.Blocks
import Blockwright.Proofs.Guarded.Slots

/-!
# Guarded blocks

The writer of a language is a class that extends one or two others: what all
languages share, and what those with braces share.  A step that no class provides
cannot be taken.  Braces are laid out clause by clause on the lines written so
far, and a header or a trailer that joins a closing brace writes over the last of
these lines, which must be there.  `Element.guardedOutline_eq` shows that outlines
are always written, and that they are those of `Element.outline`.
-/

namespace Blockwright

/-! ## Layout -/

namespace Layout

variable {α : Type} (write : Line → α) (pad : Text)

/-- Lines with another last line. -/
def overwriteLast (line : α) (lines : List α) : Except Lack (List α) :=
  if lines.isEmpty then .error .lastLine else .ok (lines.dropLast ++ [line])

theorem overwriteLast_append
    (line last : α) (front : List α) :
    overwriteLast line (front ++ [last]) = .ok (front ++ [line]) := by
  simp [overwriteLast]

/-- The lines written so far and those that open a clause. -/
def openClause (kind : Braces) (first : Bool) (header : Text) (lines : List α) :
    Except Lack (List α) :=
  match kind with
  | .ownLine => .ok (lines ++ [write (pad ++ header), write (pad ++ ['{'])])
  | .headerLine =>
      if first then
        .ok (lines ++ [write (pad ++ header ++ [' ', '{'])])
      else
        overwriteLast (write (pad ++ ['}', ' '] ++ header ++ [' ', '{'])) lines

/-- The lines written so far and those of clauses. -/
def addClauses (kind : Braces) (first : Bool) (lines : List α) :
    List (Clause α) → Except Lack (List α)
  | [] => .ok lines
  | clause :: others => do
      let opened ← openClause write pad kind first clause.header lines
      addClauses kind false (opened ++ clause.body ++ [write (pad ++ ['}'])]) others

/-- Clauses in braces; a trailer that is not empty joins the last closing brace. -/
def guardedBraces (kind : Braces) (trailer : Option Text) (clauses : List (Clause α)) :
    Except Lack (List α) := do
  let lines ← addClauses write pad kind true [] clauses
  match trailer with
  | some (c :: rest) => overwriteLast (write (pad ++ ['}', ' '] ++ c :: rest)) lines
  | _ => return lines

theorem ownLineClauses_cons
    (clause : Clause α) (others : List (Clause α)) :
    ownLineClauses write pad none (clause :: others) =
      write (pad ++ clause.header) :: write (pad ++ ['{']) ::
        clause.body ++ write (pad ++ ['}']) :: ownLineClauses write pad none others := by
  cases others <;> rfl

theorem addClauses_ownLine
    (first : Bool) (lines : List α) (clauses : List (Clause α)) :
    addClauses write pad .ownLine first lines clauses =
      .ok (lines ++ ownLineClauses write pad none clauses) := by
  induction clauses generalizing first lines with
  | nil => simp [addClauses, ownLineClauses]
  | cons clause others ih =>
      rw [addClauses, openClause, ok_bind, ih, ownLineClauses_cons]
      simp

/-- After the first clause, the last line is the closing brace that the next header joins. -/
theorem addClauses_headerLine
    (front : List α) (clauses : List (Clause α)) :
    addClauses write pad .headerLine false (front ++ [write (pad ++ ['}'])]) clauses =
      .ok (front ++ headerLineRest write pad none clauses) := by
  induction clauses generalizing front with
  | nil => rfl
  | cons clause others ih =>
      have joined :
          openClause write pad .headerLine false clause.header
              (front ++ [write (pad ++ ['}'])]) =
            .ok (front ++ [write (pad ++ ['}', ' '] ++ clause.header ++ [' ', '{'])]) :=
        overwriteLast_append _ _ front
      rw [addClauses, joined, ok_bind, ih, headerLineRest]
      simp

theorem addClauses_eq
    (kind : Braces) (clauses : List (Clause α)) :
    addClauses write pad kind true [] clauses =
      .ok (bracedClauses write pad kind none clauses) := by
  cases kind with
  | ownLine => exact addClauses_ownLine write pad true [] clauses
  | headerLine =>
      cases clauses with
      | nil => rfl
      | cons clause others =>
          have opened :
              openClause write pad .headerLine true clause.header [] =
                .ok [write (pad ++ clause.header ++ [' ', '{'])] :=
            rfl
          rw [addClauses, opened, ok_bind, addClauses_headerLine]
          rfl

theorem exists_ownLineClauses_eq
    {clauses : List (Clause α)}
    (nonempty : clauses ≠ []) :
    ∃ front : List α, ∀ trailer : Option Text,
      ownLineClauses write pad trailer clauses = front ++ [write (closing pad trailer)] := by
  induction clauses with
  | nil => exact absurd rfl nonempty
  | cons clause others ih =>
      let opened : List α :=
        write (pad ++ clause.header) :: write (pad ++ ['{']) :: clause.body
      cases others with
      | nil => exact ⟨opened, fun trailer => rfl⟩
      | cons second more =>
          obtain ⟨front, last⟩ := ih (List.cons_ne_nil second more)
          refine ⟨opened ++ write (pad ++ ['}']) :: front, ?_⟩
          intro trailer
          rw [ownLineClauses, last]
          · simp [opened]
          · simp

theorem exists_headerLineRest_eq
    (clauses : List (Clause α)) :
    ∃ front : List α, ∀ trailer : Option Text,
      headerLineRest write pad trailer clauses = front ++ [write (closing pad trailer)] := by
  induction clauses with
  | nil => exact ⟨[], fun trailer => rfl⟩
  | cons clause others ih =>
      obtain ⟨front, last⟩ := ih
      refine ⟨write (pad ++ ['}', ' '] ++ clause.header ++ [' ', '{']) ::
        clause.body ++ front, ?_⟩
      intro trailer
      rw [headerLineRest, last]
      simp

/-- Clauses end with the line that the trailer stands on. -/
theorem exists_bracedClauses_eq
    (kind : Braces)
    {clauses : List (Clause α)}
    (nonempty : clauses ≠ []) :
    ∃ front : List α, ∀ trailer : Option Text,
      bracedClauses write pad kind trailer clauses = front ++ [write (closing pad trailer)] := by
  cases kind with
  | ownLine => exact exists_ownLineClauses_eq write pad nonempty
  | headerLine =>
      cases clauses with
      | nil => exact absurd rfl nonempty
      | cons clause others =>
          obtain ⟨front, last⟩ := exists_headerLineRest_eq write pad others
          refine ⟨write (pad ++ clause.header ++ [' ', '{']) :: clause.body ++ front, ?_⟩
          intro trailer
          rw [bracedClauses, headerLineClauses, last]
          simp

theorem guardedBraces_eq
    (kind : Braces) (trailer : Option Text)
    {clauses : List (Clause α)}
    (nonempty : clauses ≠ []) :
    guardedBraces write pad kind trailer clauses =
      .ok (bracedClauses write pad kind trailer clauses) := by
  obtain ⟨front, last⟩ := exists_bracedClauses_eq write pad kind nonempty
  rw [guardedBraces, addClauses_eq, ok_bind, last none, last trailer]
  match trailer with
  | none => rfl
  | some [] => rfl
  | some (c :: rest) => exact overwriteLast_append _ _ front

end Layout

/-! ## Classes of writers -/

/-- A class of writers: of all languages, of those with braces, or of one. -/
inductive Writer where
  | common
  | braces
  | own (language : Language)
  deriving DecidableEq, Repr

namespace Language

/-- The classes of a language's writer, its own first. -/
def writers (language : Language) : List Writer :=
  match language.style with
  | .braces _ => [.own language, .braces, .common]
  | .indentation => [.own language, .common]

/-- What the nearest class that provides a step provides. -/
def provided {α : Type} (language : Language) (step : Step) (provides : Writer → Option α) :
    Except Lack α :=
  match language.writers.findSome? provides with
  | some run => .ok run
  | none => .error (.step step)

/-- Where a writer of the brace languages puts braces. -/
def braceKind (language : Language) : Layout.Braces :=
  match language.style with
  | .braces kind => kind
  | .indentation => .headerLine

end Language

/-! ## Blocks -/

/-- The header that blocks know by a name, filled from the properties. -/
def Fields.guardedHeader
    (fields : Fields) (extra : List (Text × Text)) (name : String) : Except Lack Text := do
  fields.guardedFill extra (← lookUp fields.language.headerTable name)

namespace Outline

section Steps

variable (setting : Setting)

/-- How the classes of writers lay out clauses. -/
def clausesOf :
    Writer →
      Option (Int → Option Text → List (Layout.Clause Entry) → Except Lack (List Entry))
  | .braces => some fun depth trailer clauses =>
      Layout.guardedBraces .line (setting.indent depth) setting.language.braceKind trailer clauses
  | .own .python => some fun depth _ clauses =>
      .ok (Layout.indentedClauses .line (setting.indent depth)
        (setting.filler (depth + 1)) clauses)
  | _ => none

def Setting.guardedClauses
    (depth : Int) (trailer : Option Text) (clauses : List (Layout.Clause Entry)) :
    Except Lack (List Entry) := do
  let run ← setting.language.provided .clauses (clausesOf setting)
  run depth trailer clauses

variable (fields : Fields) (depth : Int) (body : List Entry)

def trailedDoWhile : Except Lack (List Entry) := do
  let condition ← fields.guardedHeader [] "do-while"
  let header ← lookUp setting.language.headerTable "do"
  setting.guardedClauses depth (some condition) [⟨header, body⟩]

def indentedDoWhile : Except Lack (List Entry) := do
  let condition ← fields.guardedHeader [] "do-while"
  let header ← lookUp setting.language.headerTable "do"
  setting.guardedClauses depth none
    [⟨header,
      body ++ setting.lines (depth + 1) condition ++ setting.lines (depth + 2) "break"⟩]

/-- How the classes of writers write a loop that runs its body before it tests its condition. -/
def doWhileOf : Writer → Option (Except Lack (List Entry))
  | .common => some (trailedDoWhile setting fields depth body)
  | .own .python => some (indentedDoWhile setting fields depth body)
  | _ => none

def bracedSwitch : Except Lack (List Entry) := do
  let case ← fields.guardedHeader [] "case"
  let header ← fields.guardedHeader [] "switch"
  setting.guardedClauses depth none
    [⟨header,
      setting.lines (depth + 1) case ++ body ++
        setting.lines (depth + 2) "break;" ++
        setting.lines (depth + 1) "default:" ++
        setting.lines (depth + 2) "break;"⟩]

def indentedSwitch : Except Lack (List Entry) := do
  let case ← fields.guardedHeader [] "case"
  let cases ← setting.guardedClauses (depth + 1) none [⟨case, body⟩, ⟨"case _", []⟩]
  let header ← fields.guardedHeader [] "switch"
  setting.guardedClauses depth none [⟨header, cases⟩]

/-- How the classes of writers write a choice between one case and all others. -/
def switchOf : Writer → Option (Except Lack (List Entry))
  | .braces => some (bracedSwitch setting fields depth body)
  | .own .python => some (indentedSwitch setting fields depth body)
  | _ => none

/-- The entries of a block whose children have the given entries. -/
def guardedBlock : Block → Except Lack (List Entry)
  | .counting => do
      let header ← fields.guardedHeader (← fields.guardedLoopTexts) "for"
      setting.guardedClauses depth none [⟨header, body⟩]
  | .forEach => do
      let header ← fields.guardedHeader [] "foreach"
      setting.guardedClauses depth none [⟨header, body⟩]
  | .whileLoop => do
      let header ← fields.guardedHeader [] "while"
      setting.guardedClauses depth none [⟨header, body⟩]
  | .doWhile => do
      (← setting.language.provided .doWhile (doWhileOf setting fields depth body))
  | .conditional => do
      let header ← fields.guardedHeader [] "if"
      setting.guardedClauses depth none [⟨header, body⟩]
  | .ifElse => do
      let header ← fields.guardedHeader [] "if"
      let otherwise ← lookUp setting.language.headerTable "else"
      setting.guardedClauses depth none [⟨header, body⟩, ⟨otherwise, []⟩]
  | .ifElseIf => do
      let first ← fields.guardedHeader [] "if-first"
      let second ← fields.guardedHeader [] "else-if"
      let otherwise ← lookUp setting.language.headerTable "else"
      setting.guardedClauses depth none [⟨first, body⟩, ⟨second, []⟩, ⟨otherwise, []⟩]
  | .switch => do
      (← setting.language.provided .switch (switchOf setting fields depth body))

end Steps

theorem Setting.guardedClauses_eq
    (setting : Setting) (depth : Int) (trailer : Option Text)
    {clauses : List (Layout.Clause Entry)}
    (nonempty : clauses ≠ []) :
    setting.guardedClauses depth trailer clauses =
      .ok (setting.clauses depth trailer clauses) := by
  rcases setting with ⟨language, width⟩
  have braces :=
    Layout.guardedBraces_eq Entry.line (Setting.indent ⟨language, width⟩ depth)
      language.braceKind trailer nonempty
  cases language with
  | csharp | java | javascript => exact braces
  | python => rfl

section Blocks

variable {fields : Fields}

/-- A header is found under its name, read, and filled without a hole. -/
theorem guardedHeader_eq
    {kind : Block} {name : String} {template : Template}
    (known : Tag.ofName? fields.type = some (.block kind))
    (entry : lookUp fields.language.headerTable name = .ok template.spell)
    (written : template ∈ fields.language.headers.templates kind) :
    fields.guardedHeader (fields.extraTexts (.block kind)) name =
      .ok (template.fill (fields.slotWith (fields.extraTexts (.block kind)))) := by
  rw [Fields.guardedHeader, entry, ok_bind]
  exact Fields.guardedFill_spell known written

theorem guardedHeader_fill
    {kind : Block} {name : String} {template : Template}
    (known : Tag.ofName? fields.type = some (.block kind))
    (ordinary : kind ≠ .counting)
    (entry : lookUp fields.language.headerTable name = .ok template.spell)
    (written : template ∈ fields.language.headers.templates kind) :
    fields.guardedHeader [] name = .ok (fields.fill template) := by
  have header := guardedHeader_eq known entry written
  cases kind with
  | counting => exact absurd rfl ordinary
  | forEach | whileLoop | doWhile | conditional | ifElse | ifElseIf | switch => exact header

theorem lookUp_do
    (language : Language) :
    lookUp language.headerTable "do" = .ok language.headers.doOpening :=
  rfl

theorem lookUp_else
    (language : Language) :
    lookUp language.headerTable "else" = .ok language.headers.otherwise :=
  rfl

variable (width : Nat) (depth : Int) (body : List Entry)

theorem clauses_ok
    (trailer : Option Text) (first : Layout.Clause Entry) (others : List (Layout.Clause Entry)) :
    Setting.guardedClauses ⟨fields.language, width⟩ depth trailer (first :: others) =
      .ok (Setting.clauses ⟨fields.language, width⟩ depth trailer (first :: others)) :=
  Setting.guardedClauses_eq _ depth trailer (List.cons_ne_nil first others)

theorem guardedDoWhile_eq
    (known : Tag.ofName? fields.type = some (.block .doWhile)) :
    guardedBlock ⟨fields.language, width⟩ fields depth body .doWhile =
      .ok (doWhile ⟨fields.language, width⟩ fields depth body) := by
  have condition :
      fields.guardedHeader [] "do-while" =
        .ok (fields.fill fields.language.headers.doClosing) :=
    guardedHeader_fill known (by decide) rfl List.mem_cons_self
  have trailed :
      trailedDoWhile ⟨fields.language, width⟩ fields depth body =
        .ok (Setting.clauses ⟨fields.language, width⟩ depth
          (some (fields.fill fields.language.headers.doClosing))
          [⟨fields.language.headers.doOpening, body⟩]) := by
    rw [trailedDoWhile, condition, ok_bind, lookUp_do, ok_bind, clauses_ok]
  have indented :
      indentedDoWhile ⟨fields.language, width⟩ fields depth body =
        .ok (Setting.clauses ⟨fields.language, width⟩ depth none
          [⟨fields.language.headers.doOpening,
            body ++
              Setting.lines ⟨fields.language, width⟩ (depth + 1)
                (fields.fill fields.language.headers.doClosing) ++
              Setting.lines ⟨fields.language, width⟩ (depth + 2) "break"⟩]) := by
    rw [indentedDoWhile, condition, ok_bind, lookUp_do, ok_bind, clauses_ok]
  rcases fields with ⟨language, type, properties⟩
  cases language with
  | csharp | java | javascript => exact trailed
  | python => exact indented

theorem guardedSwitch_eq
    (known : Tag.ofName? fields.type = some (.block .switch)) :
    guardedBlock ⟨fields.language, width⟩ fields depth body .switch =
      .ok (switch ⟨fields.language, width⟩ fields depth body) := by
  have header :
      fields.guardedHeader [] "switch" = .ok (fields.fill fields.language.headers.switch) :=
    guardedHeader_fill known (by decide) rfl List.mem_cons_self
  have case :
      fields.guardedHeader [] "case" = .ok (fields.fill fields.language.headers.case) :=
    guardedHeader_fill known (by decide) rfl (List.mem_cons_of_mem _ List.mem_cons_self)
  have braced :
      bracedSwitch ⟨fields.language, width⟩ fields depth body =
        .ok (Setting.clauses ⟨fields.language, width⟩ depth none
          [⟨fields.fill fields.language.headers.switch,
            Setting.lines ⟨fields.language, width⟩ (depth + 1)
                (fields.fill fields.language.headers.case) ++
              body ++
              Setting.lines ⟨fields.language, width⟩ (depth + 2) "break;" ++
              Setting.lines ⟨fields.language, width⟩ (depth + 1) "default:" ++
              Setting.lines ⟨fields.language, width⟩ (depth + 2) "break;"⟩]) := by
    rw [bracedSwitch, case, ok_bind, header, ok_bind, clauses_ok]
  have indented :
      indentedSwitch ⟨fields.language, width⟩ fields depth body =
        .ok (Setting.clauses ⟨fields.language, width⟩ depth none
          [⟨fields.fill fields.language.headers.switch,
            Setting.clauses ⟨fields.language, width⟩ (depth + 1) none
              [⟨fields.fill fields.language.headers.case, body⟩, ⟨"case _", []⟩]⟩]) := by
    rw [indentedSwitch, case, ok_bind, clauses_ok, ok_bind, header, ok_bind, clauses_ok]
  rcases fields with ⟨language, type, properties⟩
  cases language with
  | csharp | java | javascript => exact braced
  | python => exact indented

theorem guardedBlock_eq
    {kind : Block}
    (known : Tag.ofName? fields.type = some (.block kind)) :
    guardedBlock ⟨fields.language, width⟩ fields depth body kind =
      .ok (block ⟨fields.language, width⟩ fields depth body kind) := by
  cases kind with
  | counting =>
      have header :
          fields.guardedHeader fields.loopTexts "for" =
            .ok (fields.language.headers.counting.fill (fields.slotWith fields.loopTexts)) :=
        guardedHeader_eq known rfl List.mem_cons_self
      rw [guardedBlock, Fields.guardedLoopTexts_eq known, ok_bind, header, ok_bind, clauses_ok]
      rfl
  | forEach | whileLoop | conditional =>
      rw [guardedBlock, guardedHeader_fill known (by decide) rfl List.mem_cons_self, ok_bind,
        clauses_ok]
      rfl
  | ifElse =>
      rw [guardedBlock, guardedHeader_fill known (by decide) rfl List.mem_cons_self, ok_bind,
        lookUp_else, ok_bind, clauses_ok]
      rfl
  | ifElseIf =>
      rw [guardedBlock, guardedHeader_fill known (by decide) rfl List.mem_cons_self, ok_bind,
        guardedHeader_fill known (by decide) rfl (List.mem_cons_of_mem _ List.mem_cons_self),
        ok_bind, lookUp_else, ok_bind, clauses_ok]
      rfl
  | doWhile => exact guardedDoWhile_eq width depth body known
  | switch => exact guardedSwitch_eq width depth body known

end Blocks

end Outline

/-! ## Elements -/

mutual

/-- The outline of an element at a depth. -/
def Element.guardedOutline
    (setting : Outline.Setting) (depth : Int) : Element → Except Lack (List Entry)
  | ⟨_, type, _, properties, children, _⟩ => do
      let fields : Fields := ⟨setting.language, type, properties⟩
      match Tag.ofName? type with
      | none => return [.unknown type depth]
      | some (.statement _) =>
          let spelled ← lookUp setting.language.statementTable type
          return setting.lines depth (← fields.guardedFill [] spelled)
      | some (.utility kind) => return [.call kind depth]
      | some (.block kind) =>
          let body ← childrenGuardedOutline setting (depth + kind.childDepth) children
          Outline.guardedBlock setting fields depth body kind

def childrenGuardedOutline
    (setting : Outline.Setting) (depth : Int) :
    Option (List Element) → Except Lack (List Entry)
  | none => return []
  | some elements => elementsGuardedOutline setting depth elements

def elementsGuardedOutline
    (setting : Outline.Setting) (depth : Int) : List Element → Except Lack (List Entry)
  | [] => return []
  | element :: others =>
      return (← element.guardedOutline setting depth) ++
        (← elementsGuardedOutline setting depth others)

end

mutual

/-- Every element is written, whatever its type, its properties and its children. -/
theorem Element.guardedOutline_eq
    (setting : Outline.Setting) (depth : Int) (element : Element) :
    element.guardedOutline setting depth = .ok (element.outline setting depth) := by
  rcases element with ⟨id, type, content, properties, children, position⟩
  rw [Element.guardedOutline, Element.outline]
  cases known : Tag.ofName? type with
  | none => rfl
  | some tag =>
      cases tag with
      | statement kind =>
          have filled :=
            Fields.guardedFill_statement ⟨setting.language, type, properties⟩ known
          have entry := setting.language.lookUp_statementTable kind
          have name : kind.name = type := Tag.name_of_ofName? known
          rw [name] at entry
          simp only [entry, ok_bind, filled]
          rfl
      | utility kind => rfl
      | block kind =>
          have body := childrenGuardedOutline_eq setting (depth + kind.childDepth) children
          simp only [body, ok_bind]
          exact Outline.guardedBlock_eq setting.width depth _ known

theorem childrenGuardedOutline_eq
    (setting : Outline.Setting) (depth : Int) (children : Option (List Element)) :
    childrenGuardedOutline setting depth children =
      .ok (childrenOutline setting depth children) := by
  cases children with
  | none => rfl
  | some elements => exact elementsGuardedOutline_eq setting depth elements

theorem elementsGuardedOutline_eq
    (setting : Outline.Setting) (depth : Int) (elements : List Element) :
    elementsGuardedOutline setting depth elements =
      .ok (elementsOutline setting depth elements) := by
  cases elements with
  | nil => rfl
  | cons element others =>
      rw [elementsGuardedOutline, element.guardedOutline_eq, elementsGuardedOutline_eq]
      rfl

end

end Blockwright
