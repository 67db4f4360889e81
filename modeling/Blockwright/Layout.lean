import Blockwright.Text.Breaks

/-!
# Layout

Lines of source text and their indentation.  Source text inside the library is
nested by four spaces a level; `lines` moves such a text to a depth of a file
whose levels have another width.  Blocks are laid out in one of three styles
over anything that lines can be written into.
-/

namespace Blockwright

/-- A finished line of a source file. -/
abbrev Line := Text

namespace Layout

/-- The spaces of one level in the library's own source texts. -/
def nesting : Nat := 4

/-- The spaces that open a line at a depth; there are none above the outermost level. -/
def indent (width : Nat) (depth : Int) : Text :=
  List.replicate (width * depth.toNat) ' '

/-- How many spaces a line opens with. -/
def leadingSpaces (line : Text) : Nat :=
  (line.takeWhile (· = ' ')).length

/-- A line is the spaces it opens with and the rest of it. -/
theorem replicate_leadingSpaces_append
    (raw : Text) :
    List.replicate (leadingSpaces raw) ' ' ++ raw.dropWhile (· = ' ') = raw := by
  have spaces : raw.takeWhile (· = ' ') = List.replicate (leadingSpaces raw) ' ' := by
    refine List.eq_replicate_iff.2 ⟨rfl, fun c member => ?_⟩
    have all := List.all_takeWhile (p := fun c : Char => decide (c = ' ')) (l := raw)
    exact of_decide_eq_true (List.all_eq_true.1 all c member)
  rw [← spaces]
  exact List.takeWhile_append_dropWhile

theorem leadingSpaces_replicate_append
    (spaces : Nat)
    {text : Text}
    (flush : text.head? ≠ some ' ') :
    leadingSpaces (List.replicate spaces ' ' ++ text) = spaces := by
  have stop : text.takeWhile (· = ' ') = [] := by
    cases text with
    | nil => rfl
    | cons c rest =>
        have different : c ≠ ' ' := by simpa using flush
        simp [different]
  rw [leadingSpaces, List.takeWhile_append_of_pos (by simp), stop]
  simp

theorem dropWhile_replicate_append
    (spaces : Nat)
    {text : Text}
    (flush : text.head? ≠ some ' ') :
    (List.replicate spaces ' ' ++ text).dropWhile (· = ' ') = text := by
  have spelled := replicate_leadingSpaces_append (List.replicate spaces ' ' ++ text)
  rw [leadingSpaces_replicate_append spaces flush] at spelled
  exact List.append_cancel_left spelled

theorem head?_dropWhile_ne_space
    (raw : Text) :
    (raw.dropWhile (· = ' ')).head? ≠ some ' ' := by
  have begins := List.head?_dropWhile_not (· = ' ') raw
  intro space
  simp [space] at begins

/-- A line moved to a depth, its own nesting rescaled; a line of spaces becomes empty. -/
def line (width : Nat) (depth : Int) (raw : Text) : Line :=
  match raw.dropWhile (· = ' ') with
  | [] => []
  | stripped =>
      let spaces := leadingSpaces raw
      indent width (depth + (spaces / nesting : Nat)) ++
        List.replicate (spaces % nesting) ' ' ++ stripped

/-- A line that begins at once is written behind the spaces of its depth. -/
theorem line_of_flush
    {raw : Text}
    (nonempty : raw ≠ [])
    (flush : raw.head? ≠ some ' ')
    (width : Nat) (depth : Int) :
    line width depth raw = indent width depth ++ raw := by
  have spaces : leadingSpaces raw = 0 := leadingSpaces_replicate_append 0 flush
  have stripped : raw.dropWhile (· = ' ') = raw := dropWhile_replicate_append 0 flush
  obtain ⟨c, rest, rfl⟩ := List.exists_cons_of_ne_nil nonempty
  simp only [line, stripped, spaces]
  simp [nesting]

/-- The lines of a text moved to a depth. -/
def lines (width : Nat) (depth : Int) (text : Text) : List Line :=
  (List.splitOn '\n' text).map (line width depth)

/-- A comment line at a depth, its text flattened to one line. -/
def comment (mark : Text) (width : Nat) (depth : Int) (text : Text) : Line :=
  indent width depth ++ mark ++ [' '] ++ Text.flatten text

/-- Blocks of lines with one empty line between neighbours. -/
def separated : List (List Line) → List Line
  | [] => []
  | [block] => block
  | block :: others => block ++ [] :: separated others

/-- Where the braces of a block stand. -/
inductive Braces where
  /-- Each on a line of its own. -/
  | ownLine
  /-- The opening one at the end of the header's line, before a later header the closing one. -/
  | headerLine
  deriving DecidableEq, Repr

/-- How a language shows where a block begins and ends. -/
inductive Style where
  | braces (kind : Braces)
  | indentation
  deriving DecidableEq, Repr

/-- A header and the body it opens. -/
structure Clause (α : Type) where
  header : Text
  body : List α

section Blocks

variable {α : Type} (write : Line → α) (pad : Text)

/-- The closing brace of the last clause, with the trailer that follows it unless it is empty. -/
def closing (trailer : Option Text) : Line :=
  match trailer with
  | some (c :: rest) => pad ++ ['}', ' '] ++ c :: rest
  | _ => pad ++ ['}']

/-- Clauses whose braces stand on lines of their own. -/
def ownLineClauses (trailer : Option Text) : List (Clause α) → List α
  | [] => []
  | [clause] =>
      write (pad ++ clause.header) :: write (pad ++ ['{']) ::
        clause.body ++ [write (closing pad trailer)]
  | clause :: others =>
      write (pad ++ clause.header) :: write (pad ++ ['{']) ::
        clause.body ++ write (pad ++ ['}']) :: ownLineClauses trailer others

/-- What follows the body of a clause whose braces stand on header lines. -/
def headerLineRest (trailer : Option Text) : List (Clause α) → List α
  | [] => [write (closing pad trailer)]
  | clause :: others =>
      write (pad ++ ['}', ' '] ++ clause.header ++ [' ', '{']) ::
        clause.body ++ headerLineRest trailer others

/-- Clauses whose braces stand on header lines. -/
def headerLineClauses (trailer : Option Text) : List (Clause α) → List α
  | [] => []
  | clause :: others =>
      write (pad ++ clause.header ++ [' ', '{']) ::
        clause.body ++ headerLineRest write pad trailer others

/-- Clauses in braces. -/
def bracedClauses
    (kind : Braces) (trailer : Option Text) (clauses : List (Clause α)) : List α :=
  match kind with
  | .ownLine => ownLineClauses write pad trailer clauses
  | .headerLine => headerLineClauses write pad trailer clauses

/-- Clauses whose bodies are indented; an empty body is filled by the given line. -/
def indentedClauses (filler : Line) (clauses : List (Clause α)) : List α :=
  clauses.flatMap fun clause =>
    write (pad ++ clause.header ++ [':']) ::
      if clause.body.isEmpty then [write filler] else clause.body

end Blocks

end Layout

end Blockwright
