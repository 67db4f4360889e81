import Mathlib.Data.List.Forall2
import Mathlib.Data.List.TakeWhile
import Blockwright.Proofs.LineBreaks.Texts

/-!
# Texts moved to a depth

A text that is moved to a depth keeps its lines.  A line of spaces only becomes
empty, and every other one keeps what stands behind the spaces it opens with.  At
the library's own width the moves add up: a text moved twice is moved by the sum of
the depths.

At other widths the levels of a line are rescaled and the spaces beyond whole levels
are kept, so that a line may lose its place below another one.  It keeps it just if
the levels between the two outweigh the spaces beyond levels of the outer line.  From
four spaces a level on this is always so.
-/

namespace Blockwright

theorem Text.length_splitOn
    (separator : Char) (text : Text) :
    (List.splitOn separator text).length = text.count separator + 1 := by
  induction text with
  | nil => rfl
  | cons c rest ih =>
      rw [List.splitOn_cons_eq_if_modifyHead, List.count_cons]
      split
      · rw [List.length_cons, ih]
      · rw [List.length_modifyHead, ih, Nat.add_zero]

namespace Layout

/-! ## Lines of spaces -/

/-- A line of spaces only, or of nothing. -/
def Blank (raw : Text) : Prop :=
  ∀ c ∈ raw, c = ' '

instance (raw : Text) : Decidable (Blank raw) :=
  List.decidableBAll (· = ' ') raw

theorem blank_iff
    (raw : Text) :
    Blank raw ↔ raw.dropWhile (· = ' ') = [] := by
  simp [Blank, List.dropWhile_eq_nil_iff]

/-! ## One line -/

section Line

variable (width : Nat) (depth : Int)

theorem line_of_blank
    {raw : Text}
    (blank : Blank raw) :
    line width depth raw = [] := by
  rw [line, (blank_iff raw).1 blank]

/-- A line that is not blank, with its levels and the spaces beyond them as one run of spaces. -/
theorem line_of_not_blank
    {raw : Text}
    (written : ¬Blank raw) :
    line width depth raw =
      List.replicate
          (width * (depth + (leadingSpaces raw / nesting : Nat)).toNat +
            leadingSpaces raw % nesting) ' ' ++
        raw.dropWhile (· = ' ') := by
  rw [blank_iff] at written
  unfold line
  split
  · next nothing => exact absurd nothing written
  · simp only [indent, List.replicate_append_replicate]

theorem dropWhile_line
    (raw : Text) :
    (line width depth raw).dropWhile (· = ' ') = raw.dropWhile (· = ' ') := by
  by_cases blank : Blank raw
  · rw [line_of_blank width depth blank, (blank_iff raw).1 blank, List.dropWhile_nil]
  · rw [line_of_not_blank width depth blank,
      dropWhile_replicate_append _ (head?_dropWhile_ne_space raw)]

theorem blank_line_iff
    (raw : Text) :
    Blank (line width depth raw) ↔ Blank raw := by
  rw [blank_iff, blank_iff, dropWhile_line]

theorem line_eq_nil_iff
    (raw : Text) :
    line width depth raw = [] ↔ Blank raw := by
  constructor
  · intro empty
    rw [← blank_line_iff width depth, empty]
    exact List.forall_mem_nil _
  · exact line_of_blank width depth

end Line

section Depth

variable (width depth : Nat) {raw : Text} (written : ¬Blank raw)

include written

theorem leadingSpaces_line :
    leadingSpaces (line width depth raw) =
      width * (depth + leadingSpaces raw / nesting) + leadingSpaces raw % nesting := by
  rw [line_of_not_blank width depth written,
    leadingSpaces_replicate_append _ (head?_dropWhile_ne_space raw), ← Int.natCast_add,
    Int.toNat_natCast]

theorem leadingSpaces_line_nesting :
    leadingSpaces (line nesting depth raw) = nesting * depth + leadingSpaces raw := by
  rw [leadingSpaces_line nesting depth written, Nat.mul_add, Nat.add_assoc, Nat.div_add_mod]

end Depth

/-- A line is known by the spaces it opens with and by what stands behind them. -/
theorem eq_of_leadingSpaces_eq
    {first second : Text}
    (spaces : leadingSpaces first = leadingSpaces second)
    (rest : first.dropWhile (· = ' ') = second.dropWhile (· = ' ')) :
    first = second := by
  rw [← replicate_leadingSpaces_append first, spaces, rest, replicate_leadingSpaces_append]

/-- A line that was moved at the library's own width is moved on from where it stands. -/
theorem line_line
    (width upper lower : Nat) (raw : Text) :
    line width upper (line nesting lower raw) = line width (upper + lower : Nat) raw := by
  by_cases blank : Blank raw
  · have lowerBlank := (blank_line_iff nesting lower raw).2 blank
    rw [line_of_blank width _ blank, line_of_blank width _ lowerBlank]
  · have lowerWritten := mt (blank_line_iff nesting lower raw).1 blank
    have levels :
        (nesting * lower + leadingSpaces raw) / nesting = lower + leadingSpaces raw / nesting :=
      Nat.mul_add_div (by decide) ..
    apply eq_of_leadingSpaces_eq
    · rw [leadingSpaces_line width upper lowerWritten, leadingSpaces_line width _ blank,
        leadingSpaces_line_nesting lower blank, levels, Nat.mul_add_mod, Nat.add_assoc]
    · rw [dropWhile_line, dropWhile_line, dropWhile_line]

theorem line_nesting_zero
    (raw : Text) :
    line nesting 0 raw = if Blank raw then [] else raw := by
  split
  · next blank => exact line_of_blank nesting 0 blank
  · next written =>
      apply eq_of_leadingSpaces_eq
      · exact (leadingSpaces_line_nesting 0 written).trans (Nat.zero_add _)
      · exact dropWhile_line nesting 0 raw

/-! ## Whole texts -/

/-- A text moved at the library's own width is moved on from where its lines stand. -/
theorem lines_lines
    (width upper lower : Nat) (text : Text) :
    lines width upper (List.intercalate ['\n'] (lines nesting lower text)) =
      lines width (upper + lower : Nat) text := by
  have some : lines nesting lower text ≠ [] :=
    mt List.map_eq_nil_iff.1 (List.splitOn_ne_nil '\n' text)
  rw [lines, List.splitOn_intercalate _ (fun _ => Text.newline_not_mem_of_mem_lines) some, lines,
    List.map_map, lines]
  exact List.map_congr_left fun raw _ => line_line width upper lower raw

/--
Moving is an action of depth on texts.  At every width the lines of a text are moved
one by one, each up to the spaces it opens with, and just the blank ones become empty.
At the library's own width the outermost depth only empties the blank lines, and
moving a moved text adds the depths, whatever the width of the second move.
-/
theorem lines_action
    (text : Text) :
    (∀ width depth : Nat,
        (lines width depth text).length = text.count '\n' + 1 ∧
          List.Forall₂
            (fun raw moved =>
              moved.dropWhile (· = ' ') = raw.dropWhile (· = ' ') ∧ (moved = [] ↔ Blank raw))
            (List.splitOn '\n' text) (lines width depth text)) ∧
      List.intercalate ['\n'] (lines nesting 0 text) =
        List.intercalate ['\n']
          ((List.splitOn '\n' text).map fun raw => if Blank raw then [] else raw) ∧
      ∀ width upper lower : Nat,
        lines width upper (List.intercalate ['\n'] (lines nesting lower text)) =
          lines width (upper + lower : Nat) text := by
  refine ⟨fun width depth => ⟨?_, ?_⟩, ?_, fun width upper lower => ?_⟩
  · rw [lines, List.length_map, Text.length_splitOn]
  · rw [lines, List.forall₂_map_right_iff, List.forall₂_same]
    intro raw _
    exact ⟨dropWhile_line width depth raw, line_eq_nil_iff width depth raw⟩
  · rw [lines, funext line_nesting_zero]
  · exact lines_lines width upper lower text

/-! ## Nesting -/

/-- A line that is not blank opens with more spaces than another one. -/
def Deeper (inner outer : Text) : Prop :=
  ¬Blank inner ∧ ¬Blank outer ∧ leadingSpaces outer < leadingSpaces inner

instance (inner outer : Text) : Decidable (Deeper inner outer) :=
  inferInstanceAs (Decidable (_ ∧ _))

/-- The lines of a text, each with the line that it is written as at a depth. -/
def moves (width : Nat) (depth : Int) (text : Text) : List (Text × Line) :=
  (List.splitOn '\n' text).zip (lines width depth text)

theorem mem_moves_iff
    {width : Nat} {depth : Int} {text : Text} {move : Text × Line} :
    move ∈ moves width depth text ↔
      move.1 ∈ List.splitOn '\n' text ∧ move.2 = line width depth move.1 := by
  rw [moves, lines, ← List.map_prod_left_eq_zip, List.mem_map]
  constructor
  · rintro ⟨raw, member, rfl⟩
    exact ⟨member, rfl⟩
  · rintro ⟨member, moved⟩
    exact ⟨move.1, member, Prod.ext rfl moved.symm⟩

/-- What stands deeper in a text is written deeper. -/
def KeepsNesting (width : Nat) (depth : Int) (text : Text) : Prop :=
  ∀ outer ∈ moves width depth text,
    ∀ inner ∈ moves width depth text,
      Deeper inner.1 outer.1 → Deeper inner.2 outer.2

instance (width : Nat) (depth : Int) (text : Text) : Decidable (KeepsNesting width depth text) :=
  List.decidableBAll _ _

/-- The levels between two lines outweigh what the outer one has beyond whole levels. -/
def Outweighs (width : Nat) (inner outer : Text) : Prop :=
  leadingSpaces outer % nesting <
    width * (leadingSpaces inner / nesting - leadingSpaces outer / nesting) +
      leadingSpaces inner % nesting

instance (width : Nat) (inner outer : Text) : Decidable (Outweighs width inner outer) :=
  Nat.decLt _ _

theorem deeper_line_iff
    (width depth : Nat)
    {inner outer : Text}
    (deeper : Deeper inner outer) :
    Deeper (line width depth inner) (line width depth outer) ↔ Outweighs width inner outer := by
  rcases deeper with ⟨innerWritten, outerWritten, fewer⟩
  obtain ⟨between, apart⟩ :=
    Nat.exists_eq_add_of_le (Nat.div_le_div_right (c := nesting) (Nat.le_of_lt fewer))
  rw [Deeper, blank_line_iff, blank_line_iff, leadingSpaces_line width depth innerWritten,
    leadingSpaces_line width depth outerWritten, Outweighs, apart, Nat.add_sub_cancel_left,
    ← Nat.add_assoc, Nat.mul_add width (depth + _) between, Nat.add_assoc,
    Nat.add_lt_add_iff_left]
  exact ⟨fun kept => kept.2.2, fun outweighs => ⟨innerWritten, outerWritten, outweighs⟩⟩

section Outweighs

variable {width : Nat} {inner outer : Text}

/-- At the library's own width and above, a level is more than what may be beyond levels. -/
theorem Deeper.outweighs_of_le
    (deeper : Deeper inner outer)
    (wide : nesting ≤ width) :
    Outweighs width inner outer := by
  have fewer := deeper.2.2
  rw [Outweighs]
  rcases Nat.eq_or_lt_of_le (Nat.div_le_div_right (c := nesting) (Nat.le_of_lt fewer)) with
    same | below
  · rw [same, Nat.sub_self, Nat.mul_zero, Nat.zero_add]
    simp only [nesting] at same ⊢
    omega
  · calc
      leadingSpaces outer % nesting < nesting := Nat.mod_lt _ (by decide)
      _ ≤ width := wide
      _ ≤ width * (leadingSpaces inner / nesting - leadingSpaces outer / nesting) :=
        Nat.le_mul_of_pos_right width (Nat.sub_pos_of_lt below)
      _ ≤ _ := Nat.le_add_right ..

/-- Any level is more than nothing beyond levels. -/
theorem Deeper.outweighs_of_dvd
    (deeper : Deeper inner outer)
    (positive : 0 < width)
    (aligned : nesting ∣ leadingSpaces outer) :
    Outweighs width inner outer := by
  rcases aligned with ⟨levels, spaces⟩
  have fewer := deeper.2.2
  rw [spaces] at fewer
  rw [Outweighs, spaces, Nat.mul_mod_right, Nat.mul_div_right _ (by decide)]
  rcases Nat.eq_zero_or_pos (leadingSpaces inner % nesting) with whole | beyond
  · have below : 0 < leadingSpaces inner / nesting - levels := by
      simp only [nesting] at fewer whole ⊢
      omega
    exact Nat.add_pos_left (Nat.mul_pos positive below) _
  · exact Nat.add_pos_right _ beyond

end Outweighs

theorem keepsNesting_of_outweighs
    {width : Nat} (depth : Nat) {text : Text}
    (outweighs :
      ∀ outer ∈ List.splitOn '\n' text,
        ∀ inner ∈ List.splitOn '\n' text,
          Deeper inner outer → Outweighs width inner outer) :
    KeepsNesting width depth text := by
  intro outer outerMoved inner innerMoved deeper
  rcases mem_moves_iff.1 outerMoved with ⟨outerMember, outerLine⟩
  rcases mem_moves_iff.1 innerMoved with ⟨innerMember, innerLine⟩
  rw [outerLine, innerLine, deeper_line_iff width depth deeper]
  exact outweighs outer.1 outerMember inner.1 innerMember deeper

/-- The least step from one level to the next. -/
def acrossLevels : Text := "   a\n    b"

theorem nesting_le_of_keepsNesting
    {width depth : Nat}
    (kept : KeepsNesting width depth acrossLevels) :
    nesting ≤ width := by
  have pieces : List.splitOn '\n' acrossLevels = ["   a".toList, "    b".toList] := by
    decide
  have member (raw : Text) (piece : raw ∈ List.splitOn '\n' acrossLevels) :
      (raw, line width depth raw) ∈ moves width depth acrossLevels :=
    mem_moves_iff.2 ⟨piece, rfl⟩
  have deeper : Deeper "    b".toList "   a".toList := by decide
  have inner := member "    b".toList (by simp [pieces])
  have outer := member "   a".toList (by simp [pieces])
  have outweighs := (deeper_line_iff width depth deeper).1 (kept _ outer _ inner deeper)
  have counted : 3 < width * 1 + 0 := outweighs
  simp only [nesting]
  omega

/--
What stands deeper in a text is written deeper just if the levels between the two
lines outweigh what the outer one has beyond whole levels.  So every text keeps its
nesting if levels are as wide as the library's own or wider, and only then; a text
that is nested in whole levels keeps it at every width.
-/
theorem keepsNesting_exactly
    (settings : Settings) (depth : Nat) :
    (∀ text : Text,
        ∀ outer ∈ moves settings.indentWidth depth text,
          ∀ inner ∈ moves settings.indentWidth depth text,
            Deeper inner.1 outer.1 →
              (Deeper inner.2 outer.2 ↔ Outweighs settings.indentWidth inner.1 outer.1)) ∧
      ((∀ text : Text, KeepsNesting settings.indentWidth depth text) ↔
        nesting ≤ settings.indentWidth) ∧
      ∀ text : Text,
        (∀ raw ∈ List.splitOn '\n' text, ¬Blank raw → nesting ∣ leadingSpaces raw) →
          KeepsNesting settings.indentWidth depth text := by
  refine ⟨?_, ⟨fun kept => nesting_le_of_keepsNesting (kept acrossLevels), ?_⟩, ?_⟩
  · intro text outer outerMoved inner innerMoved deeper
    rw [(mem_moves_iff.1 outerMoved).2, (mem_moves_iff.1 innerMoved).2]
    exact deeper_line_iff settings.indentWidth depth deeper
  · intro wide text
    apply keepsNesting_of_outweighs
    intro outer _ inner _ deeper
    exact deeper.outweighs_of_le wide
  · intro text aligned
    apply keepsNesting_of_outweighs
    intro outer member inner _ deeper
    exact deeper.outweighs_of_dvd settings.one_le_indentWidth (aligned outer member deeper.2.1)

/-- Three spaces, then a level and one space, then two levels. -/
def raggedSteps : Text := "   a\n     b\n        c"

/-- Levels of four spaces. -/
def stepsOfFour : Text := "if a:\n    if b:\n        x()"

/-- Two spaces a level: below three spaces, two levels are deep enough and five spaces are not. -/
theorem raggedSteps_partlyKept :
    let narrow : Settings := { indentWidth := 2 }
    let outer := ("   a".toList, "     a".toList)
    let near := ("     b".toList, "     b".toList)
    let far := ("        c".toList, "      c".toList)
    (outer ∈ moves narrow.indentWidth 1 raggedSteps ∧
        near ∈ moves narrow.indentWidth 1 raggedSteps ∧
        far ∈ moves narrow.indentWidth 1 raggedSteps) ∧
      (Deeper near.1 outer.1 ∧ ¬Deeper near.2 outer.2) ∧
      (Deeper far.1 outer.1 ∧ Deeper far.2 outer.2) ∧
      (∀ raw ∈ List.splitOn '\n' stepsOfFour, ¬Blank raw → nesting ∣ leadingSpaces raw) ∧
      KeepsNesting narrow.indentWidth 1 stepsOfFour := by
  intro narrow outer near far
  have outerMoved : outer ∈ moves narrow.indentWidth 1 raggedSteps := by decide
  have nearMoved : near ∈ moves narrow.indentWidth 1 raggedSteps := by decide
  have farMoved : far ∈ moves narrow.indentWidth 1 raggedSteps := by decide
  have nearDeeper : Deeper near.1 outer.1 := by decide
  have farDeeper : Deeper far.1 outer.1 := by decide
  have outweighed : ¬Outweighs narrow.indentWidth near.1 outer.1 := by decide
  have outweighs : Outweighs narrow.indentWidth far.1 outer.1 := by decide
  have aligned :
      ∀ raw ∈ List.splitOn '\n' stepsOfFour, ¬Blank raw → nesting ∣ leadingSpaces raw := by
    decide
  rcases keepsNesting_exactly narrow 1 with ⟨ordered, -, whole⟩
  have fromOuter := ordered raggedSteps outer outerMoved
  exact
    ⟨⟨outerMoved, nearMoved, farMoved⟩,
      ⟨nearDeeper, mt (fromOuter near nearMoved nearDeeper).1 outweighed⟩,
      ⟨farDeeper, (fromOuter far farMoved farDeeper).2 outweighs⟩,
      aligned, whole stepsOfFour aligned⟩

/-- Levels of two spaces, as a text that was entered may have them. -/
def stepsOfTwo : Text := "if a:\n  if b:\n    x()"

/-- Three levels of two spaces are written as two. -/
theorem stepsOfTwo_flattened :
    let narrow : Settings := { indentWidth := 2 }
    lines narrow.indentWidth 1 stepsOfTwo =
        ["  if a:".toList, "    if b:".toList, "    x()".toList] ∧
      ¬KeepsNesting narrow.indentWidth 1 stepsOfTwo := by
  decide

end Layout

end Blockwright
