import Blockwright.Document.Yaml.Scalar

/-!
# A place in a YAML text

The reader of the block and flow styles walks over a text with a cursor that
knows its line and column, because indentation carries structure.  This module
holds the steps of that walk which do not depend on structure: blanks and
comments, line folding, quoted and plain scalars, and literal blocks.
-/

namespace Blockwright.Yaml

/-- A place in a text: what follows it, and its line, column and offset counted from zero. -/
structure Cursor where
  rest : Text
  line : Nat
  column : Nat
  offset : Nat

/-- A text refused at a place. -/
structure Fault where
  line : Nat
  column : Nat
  deriving DecidableEq, Repr

/-- The report of a refusal. -/
def Fault.message (fault : Fault) : Text :=
  "unexpected text at line " ++ toString (fault.line + 1) ++ ", column " ++
    toString (fault.column + 1)

/-- The characters that end a line. -/
def isLineEnd (c : Char) : Bool :=
  ['\n', '\r', '\x85', '\u2028', '\u2029'].contains c

/-- The characters that set tokens apart. -/
def isBlank (c : Char) : Bool :=
  c = ' ' || c = '\t' || isLineEnd c

/-- Whether a text opens with a blank or is at its end. -/
def blankAhead (text : Text) : Bool :=
  (text.head?.map isBlank).getD true

namespace Cursor

/-- The beginning of a text. -/
def start (text : Text) : Cursor :=
  ⟨text, 0, 0, 0⟩

/-- A refusal at a place. -/
def refuse {α : Type} (cursor : Cursor) : Except Fault α :=
  .error ⟨cursor.line, cursor.column⟩

/-- The place after the next character. -/
def next (cursor : Cursor) : Cursor :=
  match cursor.rest with
  | [] => cursor
  | c :: rest =>
      if isLineEnd c then
        ⟨rest, cursor.line + 1, 0, cursor.offset + 1⟩
      else
        ⟨rest, cursor.line, cursor.column + 1, cursor.offset + 1⟩

/-- The place after a number of characters. -/
def skip : Nat → Cursor → Cursor
  | 0, cursor => cursor
  | count + 1, cursor => skip count cursor.next

/-- The place after the characters at the front that satisfy a test. -/
def skipWhile (test : Char → Bool) (cursor : Cursor) : Cursor :=
  cursor.skip (cursor.rest.takeWhile test).length

/-- Whether a character comes next. -/
def sees (cursor : Cursor) (c : Char) : Bool :=
  cursor.rest.head? = some c

/-- Whether a character comes next with a blank after it. -/
def seesIndicator (cursor : Cursor) (c : Char) : Bool :=
  cursor.sees c && blankAhead (cursor.rest.drop 1)

/-- Whether a line end comes next. -/
def seesLineEnd (cursor : Cursor) : Bool :=
  (cursor.rest.head?.map isLineEnd).getD false

/-- Whether a document marker made of three equal characters opens the line here. -/
def seesMarker (cursor : Cursor) (c : Char) : Bool :=
  cursor.column = 0 && cursor.rest.take 3 = [c, c, c] && blankAhead (cursor.rest.drop 3)

/-- Whether either document marker opens the line here. -/
def seesAnyMarker (cursor : Cursor) : Bool :=
  cursor.seesMarker '-' || cursor.seesMarker '.'

/--
The column of the token here; the end of the text and a document marker lie to
the left of every column.
-/
def depth (cursor : Cursor) : Int :=
  if cursor.rest.isEmpty || cursor.seesAnyMarker then -1 else cursor.column

/-- The place of the next token: past spaces, comments and line ends. -/
def toToken (cursor : Cursor) : Cursor :=
  go (cursor.rest.length + 1) cursor
where
  /-- One line at a time, bounded by the fuel. -/
  go : Nat → Cursor → Cursor
    | 0, cursor => cursor
    | fuel + 1, cursor =>
        let cursor := cursor.skipWhile (· = ' ')
        let cursor := if cursor.sees '#' then cursor.skipWhile (!isLineEnd ·) else cursor
        if cursor.seesLineEnd then go fuel cursor.next else cursor

end Cursor

/-- The character that a line end leaves in a scalar. -/
def keptLineEnd (c : Char) : Char :=
  if c = '\u2028' || c = '\u2029' then c else '\n'

/-- What a line end and the empty lines after it leave in a folded scalar. -/
def folded (first : Char) (empties : Text) : Text :=
  if keptLineEnd first != '\n' then keptLineEnd first :: empties
  else if empties.isEmpty then [' ']
  else empties

/-- A scalar's text read up to a place. -/
abbrev Scanned := Text × Cursor

/--
The empty lines at a place and the place after them and after the indentation
that follows; nothing when a document marker opens one of the lines.
-/
def emptyLines (isSpace : Char → Bool) : Nat → Text → Cursor → Option Scanned
  | 0, found, cursor => some (found.reverse, cursor)
  | fuel + 1, found, cursor =>
      if cursor.seesAnyMarker then
        none
      else
        let cursor := cursor.skipWhile isSpace
        match cursor.rest with
        | [] => some (found.reverse, cursor)
        | c :: _ =>
            if isLineEnd c then
              emptyLines isSpace fuel (keptLineEnd c :: found) cursor.next
            else
              some (found.reverse, cursor)

/-- The character of a one-letter escape in a double-quoted scalar. -/
def letterEscape? : Char → Option Char
  | '0' => some '\x00'
  | 'a' => some '\x07'
  | 'b' => some '\x08'
  | 't' => some '\t'
  | '\t' => some '\t'
  | 'n' => some '\n'
  | 'v' => some '\x0b'
  | 'f' => some '\x0c'
  | 'r' => some '\r'
  | 'e' => some '\x1b'
  | ' ' => some ' '
  | '"' => some '"'
  | '\\' => some '\\'
  | '/' => some '/'
  | 'N' => some '\x85'
  | '_' => some '\xa0'
  | 'L' => some '\u2028'
  | 'P' => some '\u2029'
  | _ => none

/-- The number of hexadecimal digits after an escape letter. -/
def codeLength? : Char → Option Nat
  | 'x' => some 2
  | 'u' => some 4
  | 'U' => some 8
  | _ => none

/--
The rest of a quoted scalar whose opening quote has been read, with what has
been read so far in reverse.  Between double quotes a backslash escapes;
between single quotes a quote is written twice.
-/
def readQuoted (double : Bool) : Nat → Text → Cursor → Except Fault Scanned
  | 0, _, cursor => cursor.refuse
  | fuel + 1, collected, cursor =>
      match cursor.rest with
      | [] => cursor.refuse
      | c :: rest =>
          if !double && c = '\'' && rest.head? = some '\'' then
            readQuoted double fuel ('\'' :: collected) (cursor.skip 2)
          else if c = (if double then '"' else '\'') then
            .ok (collected.reverse, cursor.next)
          else if double && c = '\\' then
            match rest with
            | [] => cursor.refuse
            | letter :: digits =>
                if isLineEnd letter then
                  match emptyLines (fun c => c = ' ' || c = '\t') fuel [] (cursor.skip 2) with
                  | none => cursor.refuse
                  | some (empties, after) =>
                      readQuoted double fuel (empties.reverse ++ collected) after
                else
                  match letterEscape? letter, codeLength? letter with
                  | some char, _ => readQuoted double fuel (char :: collected) (cursor.skip 2)
                  | none, some length =>
                      match Json.hexNumber? (digits.take length) with
                      | some code =>
                          if digits.length < length || 0x10ffff < code then
                            cursor.refuse
                          else
                            readQuoted double fuel (Json.charOfUnit code :: collected)
                              (cursor.skip (2 + length))
                      | none => cursor.refuse
                  | none, none => cursor.refuse
          else if isBlank c then
            let after := cursor.skipWhile fun c => c = ' ' || c = '\t'
            match after.rest with
            | [] => after.refuse
            | ending :: _ =>
                if isLineEnd ending then
                  match emptyLines (fun c => c = ' ' || c = '\t') fuel [] after.next with
                  | none => after.refuse
                  | some (empties, resumed) =>
                      readQuoted double fuel ((folded ending empties).reverse ++ collected)
                        resumed
                else
                  let spaces := cursor.rest.take (after.offset - cursor.offset)
                  readQuoted double fuel (spaces.reverse ++ collected) after
          else
            readQuoted double fuel (c :: collected) cursor.next

/-- Whether a character ends a plain scalar inside a flow collection. -/
def endsFlowPlain (c : Char) : Bool :=
  [',', '?', '[', ']', '{', '}'].contains c

/-- Whether a plain scalar may begin with a text. -/
def startsPlain (flow : Bool) (text : Text) : Bool :=
  match text with
  | [] => false
  | c :: rest =>
      let indicators : Text := "-?:,[]\x7b\x7d#&*!|>'\"%@\x60"
      (!isBlank c && !indicators.contains c) ||
        (!blankAhead rest && (c = '-' || (!flow && (c = '?' || c = ':'))))

/-- How many characters of a plain scalar stand before the next blank or indicator. -/
def plainRun (flow : Bool) : Text → Nat
  | [] => 0
  | c :: rest =>
      let endsKey :=
        c = ':' &&
          (blankAhead rest ||
            (flow && (rest.head?.map fun d => d != '?' && endsFlowPlain d).getD false))
      if isBlank c || endsKey || (flow && endsFlowPlain c) then
        0
      else
        plainRun flow rest + 1

/-- What lies between two runs of a plain scalar: spaces, or a folded line end. -/
def plainGap (cursor : Cursor) : Option Scanned :=
  let after := cursor.skipWhile (· = ' ')
  match after.rest with
  | c :: _ =>
      if isLineEnd c then
        (emptyLines (· = ' ') (after.rest.length + 1) [] after.next).map
          fun (empties, resumed) => (folded c empties, resumed)
      else
        some (cursor.rest.take (after.offset - cursor.offset), after)
  | [] => some (cursor.rest, after)

/--
A plain scalar, with what has been read so far in reverse.  It goes on over
line ends as long as the next line is not blank, not a comment and not indented
less than asked; inside a flow collection indentation does not matter.
-/
def readPlain (flow : Bool) (indentation : Int) : Nat → Text → Text → Cursor → Scanned
  | 0, collected, _, cursor => (collected.reverse, cursor)
  | fuel + 1, collected, gap, cursor =>
      let length := if cursor.sees '#' then 0 else plainRun flow cursor.rest
      if length = 0 then
        (collected.reverse, cursor)
      else
        let collected := (cursor.rest.take length).reverse ++ gap.reverse ++ collected
        let after := cursor.skip length
        match plainGap after with
        | none => (collected.reverse, after.toToken)
        | some (gap, resumed) =>
            if gap.isEmpty || resumed.sees '#' ||
                (!flow && (resumed.column : Int) < indentation) then
              (collected.reverse, resumed)
            else
              readPlain flow indentation fuel collected gap resumed

/-- How a literal block ends: with its last line end kept, dropped, or with all of them kept. -/
inductive Chomping where
  | clip
  | strip
  | keep
  deriving DecidableEq

/-- The empty lines of a literal block, each of at most the given indentation. -/
def blockGap (indentation : Nat) : Nat → Text → Cursor → Scanned
  | 0, found, cursor => (found.reverse, cursor)
  | fuel + 1, found, cursor =>
      let indent := (cursor.rest.take (indentation - cursor.column)).takeWhile (· = ' ')
      let cursor := cursor.skip indent.length
      match cursor.rest with
      | c :: _ =>
          if isLineEnd c then
            blockGap indentation fuel (keptLineEnd c :: found) cursor.next
          else
            (found.reverse, cursor)
      | [] => (found.reverse, cursor)

/-- The lines of a literal or folded block at its indentation, with the text so far in reverse. -/
def blockLines (isFolded : Bool) (chomping : Chomping) (indentation : Nat) :
    Nat → Text → Text → Cursor → Scanned
  | 0, collected, _, cursor => (collected.reverse, cursor)
  | fuel + 1, collected, empties, cursor =>
      let leading := cursor.rest.head? != some ' ' && cursor.rest.head? != some '\t'
      let content := cursor.rest.takeWhile (!isLineEnd ·)
      let collected := content.reverse ++ empties.reverse ++ collected
      let atEnd := cursor.skip content.length
      let lineEnd := (atEnd.rest.take 1).map keptLineEnd
      let (empties, after) := blockGap indentation (atEnd.rest.length + 1) [] atEnd.next
      if after.column = indentation && !after.rest.isEmpty then
        let resumesText := after.rest.head? != some ' ' && after.rest.head? != some '\t'
        let joint : Text :=
          if isFolded && lineEnd = ['\n'] && leading && resumesText then
            if empties.isEmpty then [' '] else []
          else
            lineEnd
        blockLines isFolded chomping indentation fuel (joint.reverse ++ collected) empties after
      else
        let ending : Text :=
          match chomping with
          | .clip => lineEnd
          | .strip => []
          | .keep => lineEnd ++ empties
        (collected.reverse ++ ending, after)

/-- The greatest indentation of the empty lines that open a block, and of its first other line. -/
def blockIndentation : Nat → Nat → Cursor → Nat
  | 0, found, _ => found
  | fuel + 1, found, cursor =>
      let cursor := cursor.skipWhile (· = ' ')
      let found := max found cursor.column
      if cursor.seesLineEnd then blockIndentation fuel found cursor.next else found

/-- A literal or folded block whose `|` or `>` comes next, inside a block of an indentation. -/
def readBlock (parent : Int) (cursor : Cursor) : Except Fault Scanned :=
  let isFolded := cursor.sees '>'
  let header := cursor.next.rest.takeWhile fun c => c = '+' || c = '-' || c.isDigit
  let signs := header.filter fun c => c = '+' || c = '-'
  let digits := header.filter Char.isDigit
  let afterHeader := (cursor.next.skip header.length).skipWhile (· = ' ')
  let afterHeader :=
    if afterHeader.sees '#' then afterHeader.skipWhile (!isLineEnd ·) else afterHeader
  if 1 < signs.length || 1 < digits.length || digits = ['0'] ||
      !(afterHeader.rest.isEmpty || afterHeader.seesLineEnd) then
    afterHeader.refuse
  else
    let chomping : Chomping :=
      match signs with
      | '+' :: _ => .keep
      | '-' :: _ => .strip
      | _ => .clip
    let body := afterHeader.next
    let fuel := body.rest.length + 1
    let least := max 1 (parent + 1).toNat
    let indentation :=
      match digits with
      | digit :: _ => least + (digit.toNat - 48) - 1
      | [] => max least (blockIndentation fuel 0 body)
    let (empties, first) := blockGap indentation fuel [] body
    if first.column = indentation && !first.rest.isEmpty then
      .ok (blockLines isFolded chomping indentation fuel [] empties first)
    else
      .ok (if chomping = .keep then empties else [], first)

end Blockwright.Yaml
