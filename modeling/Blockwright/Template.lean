import Blockwright.Text.Breaks

/-!
# Templates

A statement is written from a template: literal text with slots that name
properties of an element.  A slot asks for the property as it is, for a quoted
literal of it, or for a type name in one of two spellings.  Templates also have
a textual notation in which a dollar sign introduces a slot; reading a notation
either gives its template or points at the first dollar sign that introduces
nothing.
-/

namespace Blockwright

/-- What a slot asks for. -/
inductive Slot where
  /-- A property as it is. -/
  | field (name : Text)
  /-- The quoted literal of a property. -/
  | quoted (name : Text)
  /-- The type that a property names, spelled in the target language. -/
  | native (name : Text)
  /-- The same, spelled as a type argument. -/
  | boxed (name : Text)
  deriving DecidableEq, Repr

namespace Slot

/-- The name by which a template's notation asks for a slot. -/
def key : Slot → Text
  | .field name => name
  | .quoted name => "quoted_" ++ name
  | .native name => "native_" ++ name
  | .boxed name => "boxed_" ++ name

/-- The property that a slot asks for. -/
def property : Slot → Text
  | .field name => name
  | .quoted name => name
  | .native name => name
  | .boxed name => name

/--
The slot that a name asks for.  A name whose first underscore stands between
one of three words and a property asks for that property transformed; any
other name asks for the property it spells.
-/
def ofKey (name : Text) : Slot :=
  match Text.cut '_' name with
  | (word, some (c :: property)) =>
      if word = "quoted" then .quoted (c :: property)
      else if word = "native" then .native (c :: property)
      else if word = "boxed" then .boxed (c :: property)
      else .field name
  | _ => .field name

end Slot

/-- A part of a template. -/
inductive Piece where
  | literal (text : Text)
  | slot (slot : Slot)
  deriving DecidableEq, Repr

/-- A template: its parts in order. -/
abbrev Template := List Piece

/-- A literal may stand wherever a part of a template is expected. -/
instance pieceOfString : Coe String Piece := ⟨fun text => .literal text⟩

namespace Template

/-- A property as it is. -/
def field (name : String) : Piece := .slot (.field name)

/-- The quoted literal of a property. -/
def quoted (name : String) : Piece := .slot (.quoted name)

/-- The type that a property names. -/
def native (name : String) : Piece := .slot (.native name)

/-- The type that a property names, spelled as a type argument. -/
def boxed (name : String) : Piece := .slot (.boxed name)

/-- The template without slots that consists of the given lines. -/
def verbatim (lines : List String) : Template :=
  [.literal (List.intercalate ['\n'] (lines.map String.toList))]

/-- The text of a part whose slot is filled. -/
def fillPiece (value : Slot → Text) : Piece → Text
  | .literal text => text
  | .slot slot => value slot

/-- The text of a template whose slots are filled, each once and with the value as it is. -/
def fill (value : Slot → Text) (template : Template) : Text :=
  template.flatMap (fillPiece value)

/-- The slots of a template. -/
def slots (template : Template) : List Slot :=
  template.filterMap fun
    | .literal _ => none
    | .slot slot => some slot

/-- A dollar sign of a notation that introduces no slot, by its line and column from one. -/
structure Fault where
  line : Nat
  column : Nat
  deriving DecidableEq, Repr

/-- The report of a dollar sign that introduces no slot. -/
def Fault.message (fault : Fault) : Text :=
  "Invalid placeholder in string: line " ++ toString fault.line ++ ", col " ++
    toString fault.column

/-- A character that a slot's name may begin with. -/
def startsName (c : Char) : Bool :=
  c = '_' || c.isAlpha

/-- A character that a slot's name may go on with. -/
def continuesName (c : Char) : Bool :=
  startsName c || c.isDigit

/-- The slot name at the front of a text. -/
def nameAt (text : Text) : Text :=
  if (text.head?.map startsName).getD false then text.takeWhile continuesName else []

/-- What a dollar sign introduces, and how many of the characters after it that takes. -/
def introduced? (text : Text) : Option (Piece × Nat) :=
  match text with
  | '$' :: _ => some (.literal ['$'], 1)
  | '{' :: rest =>
      let name := nameAt rest
      if !name.isEmpty && (rest.drop name.length).head? = some '}' then
        some (.slot (Slot.ofKey name), name.length + 2)
      else
        none
  | other =>
      let name := nameAt other
      if name.isEmpty then none else some (.slot (Slot.ofKey name), name.length)

/--
The template of a notation, or the number of characters left at the first
dollar sign that introduces nothing.
-/
def readFrom : Text → Except Nat Template
  | [] => .ok []
  | c :: rest =>
      if c = '$' then
        match introduced? rest with
        | none => .error (rest.length + 1)
        | some (piece, taken) => (piece :: ·) <$> readFrom (rest.drop taken)
      else
        (.literal [c] :: ·) <$> readFrom rest
  termination_by text => text.length
  decreasing_by all_goals simp only [List.length_cons, List.length_drop]; omega

/-- The place of a dollar sign, given how many characters are left where it stands. -/
def placeOf (text : Text) (left : Nat) : Fault :=
  let lines := Text.lines (text.take (text.length - left + 1))
  ⟨lines.length, (lines.getLast?.map List.length).getD 0⟩

/-- The template of a notation. -/
def read (text : Text) : Except Fault Template :=
  (readFrom text).mapError (placeOf text)

end Template

end Blockwright
