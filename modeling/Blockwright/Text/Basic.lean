/-!
# Text

Everything the library writes is a list of characters.  Text is taken apart at a
separator by `List.splitOn` and put together again by `List.intercalate`; this module
says which characters are found in the pieces.
-/

namespace Blockwright

/-- A piece of text, character by character. -/
abbrev Text := List Char

/-- A literal may stand wherever text is expected. -/
instance textOfString : Coe String Text := ⟨String.toList⟩

namespace Text

/-- A text cut before the first occurrence of a separator, and what follows that separator. -/
def cut (separator : Char) (text : Text) : Text × Option Text :=
  match text.dropWhile (· != separator) with
  | [] => (text, none)
  | _ :: rest => (text.takeWhile (· != separator), some rest)

/-- The text of lines, each of them ended by a line feed. -/
def ofLines (lines : List Text) : Text :=
  lines.flatMap (· ++ ['\n'])

/-- What stands before every separator goes to the first piece. -/
theorem exists_splitOn_append
    {separator : Char} {front : Text}
    (whole : separator ∉ front)
    (text : Text) :
    ∃ first others,
      List.splitOn separator text = first :: others ∧
        List.splitOn separator (front ++ text) = (front ++ first) :: others := by
  induction front with
  | nil =>
      cases pieces : List.splitOn separator text with
      | nil => exact absurd pieces (List.splitOn_ne_nil separator text)
      | cons first others => exact ⟨first, others, rfl, pieces⟩
  | cons c rest ih =>
      rw [List.mem_cons, not_or] at whole
      obtain ⟨first, others, pieces, appended⟩ := ih whole.2
      refine ⟨first, others, pieces, ?_⟩
      rw [List.cons_append, List.splitOn_cons_eq_if_modifyHead, appended,
        if_neg (by simpa using Ne.symm whole.1)]
      rfl

theorem not_mem_of_mem_splitOn
    {separator : Char} {text piece : Text}
    (member : piece ∈ List.splitOn separator text) :
    separator ∉ piece := by
  induction text generalizing piece with
  | nil =>
      rw [List.splitOn_nil, List.mem_singleton] at member
      simp [member]
  | cons c rest ih =>
      rw [List.splitOn_cons_eq_if_modifyHead] at member
      split at member
      · rcases List.mem_cons.1 member with rfl | member
        · exact List.not_mem_nil
        · exact ih member
      · next different =>
          cases pieces : List.splitOn separator rest with
          | nil => exact absurd pieces (List.splitOn_ne_nil separator rest)
          | cons first others =>
              rw [pieces] at member ih
              rcases List.mem_cons.1 member with rfl | member
              · have firstWhole := ih List.mem_cons_self
                have other : separator ≠ c := by
                  rintro rfl
                  exact different (beq_self_eq_true separator)
                simp [firstWhole, other]
              · exact ih (List.mem_cons_of_mem _ member)

theorem mem_intercalate_iff
    {c : Char} {separator : Text}
    (apart : c ∉ separator)
    (pieces : List Text) :
    c ∈ List.intercalate separator pieces ↔ ∃ piece ∈ pieces, c ∈ piece := by
  induction pieces with
  | nil => simp
  | cons first others ih =>
      cases others with
      | nil => simp
      | cons second more =>
          rw [List.intercalate_cons_cons, List.mem_append, List.mem_append, ih]
          simp [apart]

/-- A character that is no separator stands in one of the pieces. -/
theorem exists_mem_splitOn_iff
    {c separator : Char}
    (apart : c ≠ separator)
    (text : Text) :
    (∃ piece ∈ List.splitOn separator text, c ∈ piece) ↔ c ∈ text := by
  have single : c ∉ [separator] := by simpa using apart
  rw [← mem_intercalate_iff single, List.intercalate_splitOn]

end Text

end Blockwright
