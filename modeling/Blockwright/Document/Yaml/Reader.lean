import Blockwright.Document.Yaml.Cursor

/-!
# Reading YAML

The block style, where indentation nests mappings and sequences, and the flow
style in brackets and braces.  A text holds at most one document; an empty text
holds null.  Every function is given fuel that the length of the text bounds.
-/

namespace Blockwright.Yaml

/-- A document read up to a place. -/
abbrev Read := Document × Cursor

/-- A key may be no further than this before its colon. -/
def longestKey : Nat := 1024

/-- Whether a key that begins at one place may end in the colon at another. -/
def closesKey (key colon : Cursor) : Bool :=
  key.line = colon.line && colon.offset - key.offset ≤ longestKey

/-- A mapping of entries, refused at a place if a list or a mapping is among the keys. -/
def mappingOf (entries : List (Document × Document)) (cursor : Cursor) : Except Fault Read :=
  if entries.all fun (key, _) => key.isKey then
    .ok (Document.ofEntries entries, cursor)
  else
    cursor.refuse

/-- A quoted or plain scalar at a place; continued lines are indented as asked. -/
def readScalar (flow : Bool) (indentation : Int) (cursor : Cursor) : Except Fault Read :=
  let fuel := cursor.rest.length + 1
  match cursor.rest with
  | '"' :: _ => (readQuoted true fuel [] cursor.next).map fun (text, after) =>
      (.text (String.ofList text), after)
  | '\'' :: _ => (readQuoted false fuel [] cursor.next).map fun (text, after) =>
      (.text (String.ofList text), after)
  | text =>
      if startsPlain flow text then
        let (scalar, after) := readPlain flow indentation fuel [] [] cursor
        .ok (resolve scalar, after)
      else
        cursor.refuse

mutual

/-- A node of the flow style at a place. -/
def readFlow : Nat → Cursor → Except Fault Read
  | 0, cursor => cursor.refuse
  | fuel + 1, cursor =>
      if cursor.sees '[' then
        readFlowItems fuel [] cursor.next.toToken
      else if cursor.sees '{' then
        readFlowEntries fuel [] cursor.next.toToken
      else
        readScalar true 0 cursor

/-- The value after a colon in the flow style; it is null before a comma or the closing bracket. -/
def readFlowValue : Nat → Char → Cursor → Except Fault Read
  | 0, _, cursor => cursor.refuse
  | fuel + 1, closing, cursor =>
      if cursor.sees ',' || cursor.sees closing then
        .ok (.null, cursor)
      else
        readFlow fuel cursor

/-- The items of a flow list from a token on, with those already read in reverse. -/
def readFlowItems : Nat → List Document → Cursor → Except Fault Read
  | 0, _, cursor => cursor.refuse
  | fuel + 1, collected, cursor =>
      if cursor.sees ']' then
        .ok (.list collected.reverse, cursor.next)
      else
        match readFlow fuel cursor with
        | .error fault => .error fault
        | .ok (item, afterItem) =>
            let colon := afterItem.toToken
            let read : Except Fault Read :=
              if colon.sees ':' && closesKey cursor colon then
                match readFlowValue fuel ']' colon.next.toToken with
                | .error fault => .error fault
                | .ok (value, afterValue) => mappingOf [(item, value)] afterValue
              else
                .ok (item, afterItem)
            match read with
            | .error fault => .error fault
            | .ok (item, after) =>
                let token := after.toToken
                if token.sees ']' then
                  .ok (.list (item :: collected).reverse, token.next)
                else if token.sees ',' then
                  readFlowItems fuel (item :: collected) token.next.toToken
                else
                  token.refuse

/-- The entries of a flow mapping from a token on, with those already read in reverse. -/
def readFlowEntries :
    Nat → List (Document × Document) → Cursor → Except Fault Read
  | 0, _, cursor => cursor.refuse
  | fuel + 1, collected, cursor =>
      if cursor.sees '}' then
        mappingOf collected.reverse cursor.next
      else
        match readFlow fuel cursor with
        | .error fault => .error fault
        | .ok (key, afterKey) =>
            let colon := afterKey.toToken
            let read : Except Fault Read :=
              if colon.sees ':' && closesKey cursor colon then
                readFlowValue fuel '}' colon.next.toToken
              else
                .ok (.null, afterKey)
            match read with
            | .error fault => .error fault
            | .ok (value, after) =>
                let token := after.toToken
                if token.sees '}' then
                  mappingOf ((key, value) :: collected).reverse token.next
                else if token.sees ',' then
                  readFlowEntries fuel ((key, value) :: collected) token.next.toToken
                else
                  token.refuse

end

/-- A node that may stand before a colon: a flow collection or a scalar. -/
def readInline (fuel : Nat) (indentation : Int) (cursor : Cursor) : Except Fault Read :=
  if cursor.sees '[' || cursor.sees '{' then
    readFlow fuel cursor
  else
    readScalar false indentation cursor

mutual

/--
A node of the block style at a token, inside a block of the given indentation.
A sequence or a mapping may begin only where the line's earlier text allows it.
-/
def readNode : Nat → Int → Bool → Cursor → Except Fault Read
  | 0, _, _, cursor => cursor.refuse
  | fuel + 1, indentation, mayNest, cursor =>
      if cursor.seesIndicator '-' then
        if mayNest then readSequence fuel cursor.column [] cursor else cursor.refuse
      else if cursor.sees '|' || cursor.sees '>' then
        (readBlock indentation cursor).map fun (text, after) =>
          (.text (String.ofList text), after)
      else
        match readInline fuel (indentation + 1) cursor with
        | .error fault => .error fault
        | .ok (node, after) =>
            let colon := after.toToken
            if colon.seesIndicator ':' then
              if mayNest && closesKey cursor colon then
                readMapping fuel cursor.column node [] colon.next
              else
                colon.refuse
            else
              .ok (node, after)

/--
The items of a block sequence whose dashes stand in a column, from a dash on,
with those already read in reverse.  An item is null when nothing deeper than
the dash follows it.
-/
def readSequence : Nat → Nat → List Document → Cursor → Except Fault Read
  | 0, _, _, cursor => cursor.refuse
  | fuel + 1, column, collected, dash =>
      let token := dash.next.toToken
      let read : Except Fault Read :=
        if token.depth ≤ column then
          .ok (.null, token)
        else
          readNode fuel column true token
      match read with
      | .error fault => .error fault
      | .ok (item, after) =>
          let token := after.toToken
          if token.depth = column && token.seesIndicator '-' then
            readSequence fuel column (item :: collected) token
          else
            .ok (.list (item :: collected).reverse, token)

/--
The entries of a block mapping whose keys stand in a column, from behind the
colon of a key on, with those already read in reverse.  The value is what is
indented deeper than the key, or a sequence whose dashes stand under the key.
-/
def readMapping :
    Nat → Nat → Document → List (Document × Document) → Cursor → Except Fault Read
  | 0, _, _, _, cursor => cursor.refuse
  | fuel + 1, column, key, collected, cursor =>
      let token := cursor.toToken
      let read : Except Fault Read :=
        if token.depth < column then
          .ok (.null, token)
        else if token.line = cursor.line then
          readNode fuel column false token
        else if token.depth = column then
          if token.seesIndicator '-' then
            readSequence fuel column [] token
          else
            .ok (.null, token)
        else
          readNode fuel column true token
      match read with
      | .error fault => .error fault
      | .ok (value, after) =>
          let entries := (key, value) :: collected
          let token := after.toToken
          if token.depth < column then
            mappingOf entries.reverse token
          else if token.depth = column then
            match readInline fuel (column + 1) token with
            | .error fault => .error fault
            | .ok (nextKey, afterKey) =>
                let colon := afterKey.toToken
                if colon.seesIndicator ':' && closesKey token colon then
                  readMapping fuel column nextKey entries colon.next
                else
                  colon.refuse
          else
            token.refuse

end

/-- Whether a character may stand in a text at all. -/
def isAllowed (c : Char) : Bool :=
  c = '\t' || c = '\n' || c = '\r' || c = '\x85' ||
    ('\x20' ≤ c && c ≤ '\x7e') ||
    ('\xa0' ≤ c && c ≤ '\ud7ff') ||
    ('\ue000' ≤ c && c ≤ '\ufffd') ||
    0x10000 ≤ c.toNat

/-- The node of the document that begins at a token. -/
def readDocument (fuel : Nat) (mayNest : Bool) (token : Cursor) : Except Fault Read :=
  if token.depth = -1 then
    .ok (.null, token)
  else
    readNode fuel (-1) mayNest token

/-- The place after the markers that may close a document. -/
def afterEndMarkers : Nat → Cursor → Cursor
  | 0, cursor => cursor
  | fuel + 1, cursor =>
      let token := cursor.toToken
      if token.seesMarker '.' then afterEndMarkers fuel (token.skip 3) else token

/-- The first place that holds a character that may not stand in a text. -/
def forbidden? (text : Text) : Option Cursor :=
  if text.all isAllowed then
    none
  else
    some ((Cursor.start text).skipWhile isAllowed)

/-- The document that a YAML text holds. -/
def read (text : Text) : Except Fault Document :=
  match forbidden? text with
  | some cursor => cursor.refuse
  | none => do
      let body := if text.head? = some '\ufeff' then text.drop 1 else text
      let fuel := 4 * body.length + 4
      let first := (Cursor.start body).toToken
      let (document, after) ←
        if first.seesMarker '-' then
          let token := (first.skip 3).toToken
          readDocument fuel (token.line != first.line) token
        else if first.seesMarker '.' then
          first.refuse
        else
          readDocument fuel true first
      let token := after.toToken
      let closing := afterEndMarkers fuel token
      if closing.rest.isEmpty then return document else closing.refuse

end Blockwright.Yaml
