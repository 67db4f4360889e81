import Blockwright.Text.Basic

/-!
# Line boundaries

A text that must stay on one line is flattened here.  A line boundary is any
of the eleven separators of `isBreak`, counting a carriage return followed by
a line feed once; `breakFree_flatten` says that none is left in a flattened
text.
-/

namespace Blockwright.Text

/-- The characters that end a line. -/
def isBreak (c : Char) : Bool :=
  ['\n', '\r', '\x0b', '\x0c', '\x1c', '\x1d', '\x1e', '\x85', '\u2028', '\u2029'].contains c

/-- The lines of a text; a boundary at the very end opens no further line. -/
def lines : Text → List Text
  | [] => []
  | '\r' :: '\n' :: rest => [] :: lines rest
  | c :: rest =>
      if isBreak c then
        [] :: lines rest
      else
        match lines rest with
        | [] => [[c]]
        | first :: others => (c :: first) :: others

/-- A text on one line: its lines with one space for each boundary between them. -/
def flatten (text : Text) : Text :=
  List.intercalate [' '] (lines text)

theorem breakFree_of_mem_lines (text line : Text) (member : line ∈ lines text) :
    line.all (fun c => !isBreak c) := by
  fun_induction lines text generalizing line with
  | case1 => simp at member
  | case2 rest ih =>
      rcases List.mem_cons.1 member with rfl | member
      · rfl
      · exact ih line member
  | case3 c rest _ broken ih =>
      rcases List.mem_cons.1 member with rfl | member
      · rfl
      · exact ih line member
  | case4 c rest _ whole none _ =>
      rcases List.mem_singleton.1 member with rfl
      simpa using whole
  | case5 c rest _ whole first others pieces ih =>
      rcases List.mem_cons.1 member with rfl | member
      · have := ih first (by simp [pieces])
        simpa [whole] using this
      · exact ih line (by simp [pieces, member])

theorem mem_of_mem_lines
    {text line : Text} {c : Char}
    (inside : line ∈ lines text)
    (member : c ∈ line) :
    c ∈ text := by
  fun_induction lines text generalizing line with
  | case1 => simp at inside
  | case2 rest ih =>
      rcases List.mem_cons.1 inside with rfl | inside
      · simp at member
      · exact List.mem_cons_of_mem _ (List.mem_cons_of_mem _ (ih inside member))
  | case3 first rest _ _ ih =>
      rcases List.mem_cons.1 inside with rfl | inside
      · simp at member
      · exact List.mem_cons_of_mem _ (ih inside member)
  | case4 first rest _ _ none _ =>
      rcases List.mem_singleton.1 inside with rfl
      rcases List.mem_singleton.1 member with rfl
      exact List.mem_cons_self
  | case5 first rest _ _ head others pieces ih =>
      rcases List.mem_cons.1 inside with rfl | inside
      · rcases List.mem_cons.1 member with rfl | member
        · exact List.mem_cons_self
        · exact List.mem_cons_of_mem _ (ih (by simp [pieces]) member)
      · exact List.mem_cons_of_mem _ (ih (by simp [pieces, inside]) member)

theorem breakFree_intercalate
    (separator : Text)
    (separatorFree : separator.all (fun c => !isBreak c))
    (pieces : List Text)
    (piecesFree : ∀ piece ∈ pieces, piece.all (fun c => !isBreak c)) :
    (List.intercalate separator pieces).all (fun c => !isBreak c) := by
  induction pieces using List.intersperse.induct with
  | case1 => rfl
  | case2 only => simpa using piecesFree only
  | case3 first others more ih =>
      rw [List.intercalate_cons_of_ne_nil more]
      simp only [List.all_append, Bool.and_eq_true]
      exact ⟨⟨piecesFree first (by simp), separatorFree⟩,
        ih (fun piece member => piecesFree piece (by simp [member]))⟩

/-- A flattened text holds no line boundary. -/
theorem breakFree_flatten (text : Text) :
    (flatten text).all (fun c => !isBreak c) :=
  breakFree_intercalate [' '] (by decide) (lines text) (breakFree_of_mem_lines text)

theorem newline_not_mem_flatten
    (text : Text) :
    '\n' ∉ flatten text := by
  intro member
  have free := List.all_eq_true.1 (breakFree_flatten text) '\n' member
  exact absurd free (by decide)

end Blockwright.Text
