import Blockwright.Layout
import Mathlib.Data.List.Chain

/-!
# Indentation levels

Lines are indented with discipline if a line stands deeper than the one before
just where that one ends in a colon or an opening parenthesis, and then by one
level; blank lines do not count.  A reader that keeps the levels which are open
then finds every line on one of them (`Disciplined.of_stepped`).

A piece of a file is `Stepped` at a margin if it begins at the margin, never comes
left of it, and leaves nothing open at its end.  Such pieces can stand below one
another, and a piece one level deeper can stand below a line that opens a level.
-/

namespace Blockwright

/-- The line ends in a colon or in an opening parenthesis. -/
def Text.IsOpener (line : Text) : Prop :=
  line.getLast? = some ':' ∨ line.getLast? = some '('

instance (line : Text) : Decidable line.IsOpener :=
  inferInstanceAs (Decidable (_ ∨ _))

theorem Text.IsOpener.any_ne_space
    {line : Text}
    (opens : line.IsOpener) :
    line.any (· != ' ') = true := by
  rw [List.any_eq_true]
  rcases opens with colon | parenthesis
  · exact ⟨':', List.mem_of_getLast? colon, by decide⟩
  · exact ⟨'(', List.mem_of_getLast? parenthesis, by decide⟩

namespace Layout

/-- The lines that are not blank. -/
def written (lines : List Line) : List Line :=
  lines.filter fun line => line.any (· != ' ')

/-- A line stands deeper than the one above it just if that one is an opener, by one level. -/
structure Follows (width : Nat) (above below : Line) : Prop where
  deeper : leadingSpaces above < leadingSpaces below ↔ above.IsOpener
  once : above.IsOpener → leadingSpaces below = leadingSpaces above + width

instance (width : Nat) (above below : Line) : Decidable (Follows width above below) :=
  decidable_of_iff
    ((leadingSpaces above < leadingSpaces below ↔ above.IsOpener) ∧
      (above.IsOpener → leadingSpaces below = leadingSpaces above + width))
    ⟨fun both => ⟨both.1, both.2⟩, fun follows => ⟨follows.deeper, follows.once⟩⟩

/--
The levels that are open after a line that begins with some spaces, innermost
first.  A line may open a level deeper than all others, or return to an open one.
-/
def openLevels (levels : List Nat) (spaces : Nat) : Option (List Nat) :=
  if levels.headD 0 < spaces then
    some (spaces :: levels)
  else
    let left := levels.dropWhile (spaces < ·)
    if left.head? = some spaces then some left else none

/-- Lines whose indentation follows the openers among them. -/
structure Disciplined (width : Nat) (lines : List Line) : Prop where
  aligned : ∀ line ∈ written lines, width ∣ leadingSpaces line
  follows : (written lines).IsChain (Follows width)
  returns :
    ((written lines).foldlM (fun levels line => openLevels levels (leadingSpaces line))
      [0]).isSome

instance (width : Nat) (lines : List Line) : Decidable (Disciplined width lines) :=
  decidable_of_iff
    ((∀ line ∈ written lines, width ∣ leadingSpaces line) ∧
      (written lines).IsChain (Follows width) ∧
      ((written lines).foldlM (fun levels line => openLevels levels (leadingSpaces line))
        [0]).isSome)
    ⟨fun all => ⟨all.1, all.2.1, all.2.2⟩, fun lines => ⟨lines.1, lines.2, lines.3⟩⟩

/-- A piece of a file that stands at a margin and leaves no level open. -/
structure Stepped (width margin : Nat) (lines : List Line) : Prop where
  unbroken : ∀ line ∈ lines, '\n' ∉ line
  aligned :
    ∀ line ∈ written lines, width ∣ leadingSpaces line ∧ margin ≤ leadingSpaces line
  follows : (written lines).IsChain (Follows width)
  first : ∀ line ∈ (written lines).head?, leadingSpaces line = margin
  last : ∀ line ∈ (written lines).getLast?, ¬line.IsOpener

/-- A piece that is not blank, which can stand below an opener. -/
structure Body (width margin : Nat) (lines : List Line) : Prop
    extends Stepped width margin lines where
  nonempty : written lines ≠ []

/-! ## Pieces -/

theorem written_append
    (first second : List Line) :
    written (first ++ second) = written first ++ written second :=
  List.filter_append ..

variable {width margin : Nat}

namespace Stepped

theorem nil :
    Stepped width margin [] where
  unbroken := by simp
  aligned := by simp [written]
  follows := List.isChain_nil
  first := by simp [written]
  last := by simp [written]

theorem blank :
    Stepped width margin [[]] where
  unbroken := by simp
  aligned := by simp [written]
  follows := List.isChain_nil
  first := by simp [written]
  last := by simp [written]

theorem single
    {line : Line}
    (unbroken : '\n' ∉ line)
    (aligned : width ∣ margin)
    (begins : leadingSpaces line = margin)
    (closed : ¬line.IsOpener) :
    Stepped width margin [line] := by
  have lines : written [line] = [line] ∨ written [line] = [] := by
    simp only [written, List.filter_singleton]
    cases line.any (· != ' ') with
    | true => exact .inl rfl
    | false => exact .inr rfl
  have whole : ∀ other ∈ [line], '\n' ∉ other := by simpa using unbroken
  rcases lines with lines | lines
  · constructor
    · exact whole
    all_goals rw [lines]
    · intro other member
      rw [List.mem_singleton] at member
      rw [member, begins]
      exact ⟨aligned, Nat.le_refl margin⟩
    · exact List.isChain_singleton _
    · simpa using begins
    · simpa using closed
  · constructor
    · exact whole
    all_goals simp [lines]

/-- What stands below a piece begins at its margin, and the piece has left nothing open. -/
theorem append
    {first second : List Line}
    (above : Stepped width margin first)
    (below : Stepped width margin second) :
    Stepped width margin (first ++ second) := by
  constructor
  · exact List.forall_mem_append.2 ⟨above.unbroken, below.unbroken⟩
  all_goals rw [written_append]
  · exact List.forall_mem_append.2 ⟨above.aligned, below.aligned⟩
  · rw [List.isChain_append]
    refine ⟨above.follows, below.follows, ?_⟩
    intro line last next begins
    have closed := above.last line last
    have right := (above.aligned line (List.mem_of_getLast? last)).2
    have left := below.first next begins
    constructor
    · constructor
      · intro deeper
        omega
      · intro opener
        exact absurd opener closed
    · intro opener
      exact absurd opener closed
  · intro line member
    rw [List.head?_append] at member
    cases begins : (written first).head? with
    | none =>
        rw [begins] at member
        exact below.first line member
    | some head =>
        rw [begins] at member
        obtain rfl : head = line := Option.some.inj member
        exact above.first head begins
  · intro line member
    rw [List.getLast?_append] at member
    cases ends : (written second).getLast? with
    | none =>
        rw [ends] at member
        exact above.last line member
    | some tail =>
        rw [ends] at member
        obtain rfl : tail = line := Option.some.inj member
        exact below.last tail ends

theorem flatMap
    {α : Type} {items : List α} {write : α → List Line}
    (each : ∀ item ∈ items, Stepped width margin (write item)) :
    Stepped width margin (items.flatMap write) := by
  induction items with
  | nil => exact nil
  | cons item others ih =>
      rw [List.flatMap_cons]
      have first := each item List.mem_cons_self
      exact first.append (ih fun other member => each other (List.mem_cons_of_mem _ member))

/-- Lines at the margin none of which opens a level. -/
theorem of_forall
    {lines : List Line}
    (aligned : width ∣ margin)
    (each : ∀ line ∈ lines, '\n' ∉ line ∧ leadingSpaces line = margin ∧ ¬line.IsOpener) :
    Stepped width margin lines := by
  have apart : lines.flatMap (fun line => [line]) = lines := by simp
  rw [← apart]
  apply flatMap
  intro line member
  obtain ⟨unbroken, begins, closed⟩ := each line member
  exact single unbroken aligned begins closed

end Stepped

namespace Body

theorem append
    {first second : List Line}
    (above : Body width margin first)
    (below : Stepped width margin second) :
    Body width margin (first ++ second) where
  toStepped := above.toStepped.append below
  nonempty := by
    rw [written_append]
    exact List.append_ne_nil_of_left_ne_nil above.nonempty _

theorem append_left
    {first second : List Line}
    (above : Stepped width margin first)
    (below : Body width margin second) :
    Body width margin (first ++ second) where
  toStepped := above.append below.toStepped
  nonempty := by
    rw [written_append]
    exact List.append_ne_nil_of_right_ne_nil _ below.nonempty

theorem flatMap
    {α : Type} {items : List α} {write : α → List Line}
    (nonempty : items ≠ [])
    (each : ∀ item ∈ items, Body width margin (write item)) :
    Body width margin (items.flatMap write) := by
  cases items with
  | nil => exact absurd rfl nonempty
  | cons item others =>
      rw [List.flatMap_cons]
      have rest : Stepped width margin (others.flatMap write) :=
        Stepped.flatMap fun other member =>
          (each other (List.mem_cons_of_mem _ member)).toStepped
      exact (each item List.mem_cons_self).append rest

/-- Pieces with blank lines between them. -/
theorem separated
    {blocks : List (List Line)}
    (nonempty : blocks ≠ [])
    (each : ∀ block ∈ blocks, Body width margin block) :
    Body width margin (separated blocks) := by
  induction blocks with
  | nil => exact absurd rfl nonempty
  | cons block others ih =>
      have first := each block List.mem_cons_self
      cases others with
      | nil => exact first
      | cons second more =>
          have rest :=
            ih (List.cons_ne_nil second more) fun other member =>
              each other (List.mem_cons_of_mem _ member)
          exact first.append (Stepped.blank.append rest.toStepped)

theorem single
    {line : Line}
    (unbroken : '\n' ∉ line)
    (aligned : width ∣ margin)
    (begins : leadingSpaces line = margin)
    (closed : ¬line.IsOpener)
    (some : line.any (· != ' ')) :
    Body width margin [line] where
  toStepped := Stepped.single unbroken aligned begins closed
  nonempty := by simp [written, some]

/-- An opener and a piece one level deeper. -/
theorem opening
    {opener : Line} {lines : List Line}
    (unbroken : '\n' ∉ opener)
    (aligned : width ∣ margin)
    (positive : 0 < width)
    (begins : leadingSpaces opener = margin)
    (opens : opener.IsOpener)
    (body : Body width (margin + width) lines) :
    Body width margin (opener :: lines) := by
  obtain ⟨next, others, below⟩ := List.exists_cons_of_ne_nil body.nonempty
  have above : written (opener :: lines) = opener :: next :: others := by
    rw [← below]
    exact List.filter_cons_of_pos opens.any_ne_space
  have start : leadingSpaces next = margin + width := body.first next (by simp [below])
  have inner := body.follows
  have ends := body.last
  have right := body.aligned
  rw [below] at inner ends right
  have one : Follows width opener next := by
    constructor
    · rw [begins, start]
      exact iff_of_true (Nat.lt_add_of_pos_right positive) opens
    · intro _
      rw [begins, start]
  constructor
  · constructor
    · exact List.forall_mem_cons.2 ⟨unbroken, body.unbroken⟩
    all_goals rw [above]
    · refine List.forall_mem_cons.2 ⟨?_, ?_⟩
      · rw [begins]
        exact ⟨aligned, Nat.le_refl margin⟩
      · intro line member
        have deeper := right line member
        exact ⟨deeper.1, Nat.le_of_add_right_le deeper.2⟩
    · exact List.isChain_cons_cons.2 ⟨one, inner⟩
    · simpa using begins
    · exact ends
  · rw [above]
    exact List.cons_ne_nil _ _

end Body

/-! ## Open levels -/

/-- The levels that are open on a line at a level: it and all levels outside it. -/
def levelsTo (width : Nat) : Nat → List Nat
  | 0 => [0]
  | level + 1 => width * (level + 1) :: levelsTo width level

theorem headD_levelsTo
    (width level : Nat) :
    (levelsTo width level).headD 0 = width * level := by
  cases level <;> rfl

theorem dropWhile_levelsTo
    {width inner outer : Nat}
    (positive : 0 < width)
    (within : outer ≤ inner) :
    (levelsTo width inner).dropWhile (width * outer < ·) = levelsTo width outer := by
  induction inner with
  | zero =>
      obtain rfl : outer = 0 := Nat.le_zero.1 within
      rfl
  | succ inner ih =>
      rcases Nat.lt_or_eq_of_le within with less | rfl
      · have inside : width * outer < width * (inner + 1) :=
          Nat.mul_lt_mul_of_pos_left less positive
        rw [levelsTo, List.dropWhile_cons_of_pos (by simpa using inside)]
        exact ih (Nat.lt_succ_iff.1 less)
      · rw [levelsTo, List.dropWhile_cons_of_neg (by simp)]

/-- A line opens one level at most, or returns to one of those outside. -/
theorem openLevels_levelsTo
    {width inner outer : Nat}
    (positive : 0 < width)
    (within : outer ≤ inner + 1) :
    openLevels (levelsTo width inner) (width * outer) = some (levelsTo width outer) := by
  rw [openLevels, headD_levelsTo]
  rcases Nat.lt_or_eq_of_le within with less | rfl
  · have outside : ¬width * inner < width * outer := by
      rw [Nat.mul_lt_mul_left positive]
      omega
    rw [if_neg outside, dropWhile_levelsTo positive (Nat.lt_succ_iff.1 less)]
    cases outer <;> simp [levelsTo]
  · have deeper : width * inner < width * (inner + 1) :=
      Nat.mul_lt_mul_of_pos_left (Nat.lt_succ_self inner) positive
    rw [if_pos deeper]
    rfl

theorem returns_of_follows
    (positive : 0 < width)
    {lines : List Line} {level : Nat}
    (aligned : ∀ line ∈ lines, width ∣ leadingSpaces line)
    (follows : lines.IsChain (Follows width))
    (first : ∀ line ∈ lines.head?, leadingSpaces line ≤ width * (level + 1)) :
    (lines.foldlM (fun levels line => openLevels levels (leadingSpaces line))
      (levelsTo width level)).isSome := by
  induction lines generalizing level with
  | nil => rfl
  | cons line others ih =>
      obtain ⟨own, spaces⟩ := aligned line List.mem_cons_self
      have near := first line rfl
      rw [spaces] at near
      have within : own ≤ level + 1 := Nat.le_of_mul_le_mul_left near positive
      rw [List.foldlM_cons, spaces, openLevels_levelsTo positive within]
      apply ih
      · exact fun other member => aligned other (List.mem_cons_of_mem _ member)
      · exact follows.tail
      · intro next begins
        have follow : Follows width line next := (List.isChain_cons.1 follows).1 next begins
        rw [Nat.mul_add, Nat.mul_one, ← spaces]
        by_cases opener : line.IsOpener
        · exact Nat.le_of_eq (follow.once opener)
        · have shallow := mt follow.deeper.1 opener
          omega

theorem Disciplined.of_stepped
    (positive : 0 < width)
    {lines : List Line}
    (stepped : Stepped width 0 lines) :
    Disciplined width lines where
  aligned := fun line member => (stepped.aligned line member).1
  follows := stepped.follows
  returns := by
    have outermost : [0] = levelsTo width 0 := rfl
    rw [outermost]
    apply returns_of_follows positive
    · exact fun line member => (stepped.aligned line member).1
    · exact stepped.follows
    · intro line begins
      rw [stepped.first line begins]
      exact Nat.zero_le _

end Layout

end Blockwright
